import PowerRota.Calendar.Instant
import PowerRota.Text.Blank
import PowerRota.Text.Decimal

/-! Instants in writing.

`render` writes a date, a time and an offset, with as many fractional digits as
are needed in groups of three. What is read is a timestamp, which tells a leap second
from the second after it. There are two readers: `read?` keeps to the strict form with
fixed widths, `readRelaxed?` also takes short numbers, spaces around the punctuation,
signed years, and `UTC` for the offset. -/

set_option autoImplicit false

namespace PowerRota.Calendar

open Text

namespace Instant

/-- Four digits; beyond the year 9999 and before the year 0 a sign and at least
four. -/
def yearText (year : Int) : List Char :=
  if 0 ≤ year ∧ year ≤ 9999 then zeroPadded 4 year.toNat
  else if year < 0 then '-' :: zeroPadded 4 year.natAbs
  else '+' :: zeroPadded 4 year.natAbs

def fractionText (fraction : Nat) : List Char :=
  if fraction = 0 then []
  else if fraction % 1000000 = 0 then '.' :: zeroPadded 3 (fraction / 1000000)
  else if fraction % 1000 = 0 then '.' :: zeroPadded 6 (fraction / 1000)
  else '.' :: zeroPadded 9 fraction

def dateText (second : Int) : List Char :=
  let date := Date.ofDay (second / 86400)
  yearText date.year ++ ['-'] ++ zeroPadded 2 date.month ++ ['-'] ++ zeroPadded 2 date.day

/-- The clock at a second and some nanoseconds past it, which may be more than a second. -/
def timeText (second : Int) (nanos : Nat) : List Char :=
  let clock := (second % 86400).toNat
  zeroPadded 2 (clock / 3600) ++ [':'] ++ zeroPadded 2 (clock / 60 % 60) ++ [':'] ++
    zeroPadded 2 (clock % 60 + nanos / 1000000000) ++ fractionText (nanos % 1000000000)

def render (t : Instant) : String :=
  String.ofList (dateText t.second ++ ['T'] ++ timeText t.second t.fraction ++
    ['+', '0', '0', ':', '0', '0'])

def renderPlain (t : Instant) : String :=
  String.ofList (dateText t.second ++ [' '] ++ timeText t.second t.fraction ++
    [' ', 'U', 'T', 'C'])

end Instant

def Date.InReach (date : Date) : Prop :=
  Date.firstYear ≤ date.year ∧ date.year ≤ Date.lastYear

instance (date : Date) : Decidable date.InReach :=
  inferInstanceAs (Decidable (_ ∧ _))

/-- A date and a time as they are written, in universal time. The 60th second of a minute is
its 59th and more than a second past that. -/
structure Timestamp where
  /-- Seconds since the start of 1970. -/
  second : Int
  nanos : Nat
  nanos_lt : nanos < 2000000000
  leap_last : 1000000000 ≤ nanos → second % 60 = 59
  inReach : (Date.ofDay (second / 86400)).InReach
  deriving DecidableEq, Repr

namespace Timestamp

/-- A leap second falls into the second after it. -/
def instant (timestamp : Timestamp) : Instant :=
  (Instant.ofSecond timestamp.second).addNanos timestamp.nanos

/-- The nanoseconds from an instant up to a timestamp. Days and times of day are subtracted apart,
so a leap second that ends an earlier time of day, on a later day, does not count. -/
def nanosAfter (timestamp : Timestamp) (t : Instant) : Int :=
  let apart := timestamp.instant.nanos - t.nanos
  if 1000000000 ≤ timestamp.nanos ∧ timestamp.second % 86400 < t.second % 86400 then
    apart - 1000000000
  else apart

def renderZulu (timestamp : Timestamp) : String :=
  String.ofList (Instant.dateText timestamp.second ++ ['T'] ++
    Instant.timeText timestamp.second timestamp.nanos ++ ['Z'])

def make? (second : Int) (nanos : Nat) : Option Timestamp :=
  if h : nanos < 2000000000 ∧ (1000000000 ≤ nanos → second % 60 = 59) ∧
      (Date.ofDay (second / 86400)).InReach then
    some ⟨second, nanos, h.1, h.2.1, h.2.2⟩
  else none

/-- The timestamp of a wall time whose clock is `offset` seconds ahead. The 60th
second of a minute is admitted as a leap second. -/
def ofParts? (year : Int) (month day hour minute second nanos : Nat) (offset : Int) :
    Option Timestamp :=
  let date := Date.mk year month day
  if date.Valid ∧ date.InReach ∧ hour ≤ 23 ∧ minute ≤ 59 ∧ second ≤ 60 ∧ -86400 < offset ∧
      offset < 86400 then
    if second = 60 then
      make? (date.toDay * 86400 + (hour * 3600 + minute * 60 + 59 : Nat) - offset)
        (nanos + 1000000000)
    else
      make? (date.toDay * 86400 + (hour * 3600 + minute * 60 + second : Nat) - offset) nanos
  else none

/-- Any number of digits after the point, of which nine count. -/
def readFraction? : List Char → Option (Nat × List Char)
  | '.' :: rest =>
      let digits := rest.takeWhile isDigit
      let kept := digits.take 9
      if digits.isEmpty then none
      else some (digitsValue kept * Nat.pow 10 (9 - kept.length), rest.dropWhile isDigit)
  | text => some (0, text)

def readOffset? (separator : List Char → Option (List Char)) :
    List Char → Option (Int × List Char)
  | [] => none
  | c :: rest =>
      if c = 'Z' ∨ c = 'z' then some (0, rest)
      else if c = '+' ∨ c = '-' ∨ c = '\u2212' then do
        let (hours, rest) ← readFixed 2 rest
        let rest ← separator rest
        let (minutes, rest) ← readFixed 2 rest
        if minutes ≤ 59 then
          let ahead : Int := (hours * 3600 + minutes * 60 : Nat)
          return (if c = '+' then ahead else -ahead, rest)
        else none
      else none

def readChar? (expected : Char) : List Char → Option (List Char)
  | [] => none
  | c :: rest => if c = expected then some rest else none

def readTimeMark? : List Char → Option (List Char)
  | [] => none
  | c :: rest => if c = 'T' ∨ c = 't' ∨ c = ' ' then some rest else none

def read? (text : String) : Option Timestamp := do
  let (year, rest) ← readFixed 4 text.toList
  let rest ← readChar? '-' rest
  let (month, rest) ← readFixed 2 rest
  let rest ← readChar? '-' rest
  let (day, rest) ← readFixed 2 rest
  let rest ← readTimeMark? rest
  let (hour, rest) ← readFixed 2 rest
  let rest ← readChar? ':' rest
  let (minute, rest) ← readFixed 2 rest
  let rest ← readChar? ':' rest
  let (second, rest) ← readFixed 2 rest
  let (nanos, rest) ← readFraction? rest
  let (offset, rest) ← readOffset? (readChar? ':') rest
  if rest.isEmpty then ofParts? year month day hour minute second nanos offset else none

def readShort? (width : Nat) (text : List Char) : Option (Nat × List Char) :=
  let text := trimStart text
  let digits := (text.take width).takeWhile isDigit
  if digits.isEmpty then none else some (digitsValue digits, text.drop digits.length)

def readYear? (text : List Char) : Option (Int × List Char) :=
  let unbounded (sign : Int) (rest : List Char) : Option (Int × List Char) :=
    let digits := rest.takeWhile isDigit
    if digits.isEmpty then none
    else some (sign * (digitsValue digits : Int), rest.dropWhile isDigit)
  match trimStart text with
  | '-' :: rest => unbounded (-1) rest
  | '+' :: rest => unbounded 1 rest
  | text => (readShort? 4 text).map fun (year, rest) => ((year : Int), rest)

def readSpacedChar? (expected : Char) (text : List Char) : Option (List Char) :=
  readChar? expected (trimStart text)

def skipColons (text : List Char) : Option (List Char) :=
  some (text.dropWhile fun c => c == ':' || isBlank c)

def readZoneMark? (text : List Char) : Option (Int × List Char) :=
  let text := trimStart text
  if (text.take 3).map Char.toUpper = ['U', 'T', 'C'] then some (0, text.drop 3)
  else readOffset? skipColons text

def readRelaxed? (text : String) : Option Timestamp := do
  let (year, rest) ← readYear? text.toList
  let rest ← readSpacedChar? '-' rest
  let (month, rest) ← readShort? 2 rest
  let rest ← readSpacedChar? '-' rest
  let (day, rest) ← readShort? 2 rest
  let rest ← readTimeMark? rest
  let (hour, rest) ← readShort? 2 rest
  let rest ← readSpacedChar? ':' rest
  let (minute, rest) ← readShort? 2 rest
  let rest ← readSpacedChar? ':' rest
  let (second, rest) ← readShort? 2 rest
  let (nanos, rest) ← readFraction? rest
  let (offset, rest) ← readZoneMark? rest
  if allBlank rest then ofParts? year month day hour minute second nanos offset else none

end Timestamp

def Instant.read? (text : String) : Option Instant :=
  (Timestamp.read? text).map Timestamp.instant

end PowerRota.Calendar
