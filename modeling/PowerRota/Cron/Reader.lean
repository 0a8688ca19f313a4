import PowerRota.Cron.Expression
import PowerRota.Cron.Weekday
import PowerRota.Text.Quoted

/-! Reading cron expressions.

A text has five fields, or six with the seconds first, or is a word such as
`@daily`. Inside the fields, items are separated by commas; an item is `*`, `?`, a
value, a name or a range, and all but a name alone may have a step. No space is
needed between two fields, so a value that follows a complete last field is read
as the year. -/

set_option autoImplicit false

namespace PowerRota.Cron

open PowerRota.Text

inductive Fault where
  | fieldCount (count : Nat)
  | weekday (atom : String)
  | malformed
  deriving DecidableEq, Repr

/-- The values that an item names before any step is taken. -/
inductive Range where
  | every
  | point (n : Nat)
  | between (low high : Nat)
  | namedBetween (low high : String)
  deriving DecidableEq, Repr

inductive Item where
  | plain (range : Range)
  | stepped (range : Range) (step : Nat)
  | named (name : String)
  deriving DecidableEq, Repr

def isSpace (c : Char) : Bool :=
  c == ' ' || c == '\t' || c == '\r' || c == '\n'

def skipSpace (text : List Char) : List Char :=
  text.dropWhile isSpace

def isLetter (c : Char) : Bool :=
  ('a' ≤ c && c ≤ 'z') || ('A' ≤ c && c ≤ 'Z')

def readMark? (mark : Char) (text : List Char) : Option (List Char) :=
  match skipSpace text with
  | c :: rest => if c = mark then some (skipSpace rest) else none
  | [] => none

def readSeparator? (mark : Char) : List Char → Option (List Char)
  | c :: rest => if c = mark then some rest else none
  | [] => none

def valueLimit : Nat := 4294967295

def readValue? (text : List Char) : Option (Nat × List Char) :=
  let text := skipSpace text
  let digits := text.takeWhile isDigit
  let n := digitsValue digits
  if digits.isEmpty || valueLimit < n then none
  else some (n, skipSpace (text.dropWhile isDigit))

def readName? (text : List Char) : Option (String × List Char) :=
  let text := skipSpace text
  let letters := text.takeWhile isLetter
  if letters.isEmpty then none
  else some (lowerAscii (String.ofList letters), skipSpace (text.dropWhile isLetter))

def readBetween? (text : List Char) : Option (Range × List Char) := do
  let (low, rest) ← readValue? text
  let rest ← readSeparator? '-' rest
  let (high, rest) ← readValue? rest
  return (.between low high, rest)

def readNamedBetween? (text : List Char) : Option (Range × List Char) := do
  let (low, rest) ← readName? text
  let rest ← readSeparator? '-' rest
  let (high, rest) ← readName? rest
  return (.namedBetween low high, rest)

/-- The question mark stands for every value, in the fields that admit it. -/
def readRange? (question : Bool) (text : List Char) : Option (Range × List Char) :=
  (if question then (readMark? '?' text).map fun rest => (Range.every, rest) else none) <|>
  ((readMark? '*' text).map fun rest => (Range.every, rest)) <|>
  readBetween? text <|>
  ((readValue? text).map fun (n, rest) => (Range.point n, rest)) <|>
  readNamedBetween? text

def readStepped? (question : Bool) (text : List Char) : Option (Item × List Char) := do
  let (range, rest) ← readRange? question text
  let rest ← readSeparator? '/' rest
  let (step, rest) ← readValue? rest
  return (.stepped range step, rest)

def readItem? (question : Bool) (text : List Char) : Option (Item × List Char) :=
  readStepped? question text <|>
  ((readRange? question text).map fun (range, rest) => (Item.plain range, rest)) <|>
  ((readName? text).map fun (name, rest) => (Item.named name, rest))

def readItems? (question : Bool) : (fuel : Nat) → List Char → Option (List Item × List Char)
  | 0, _ => none
  | fuel + 1, text => do
      let (item, rest) ← readItem? question text
      match readSeparator? ',' rest with
      | some after =>
          match readItems? question fuel after with
          | some (items, rest) => return (item :: items, rest)
          | none => return ([item], rest)
      | none => return ([item], rest)

def Range.values? (field : Field) : Range → Option (List Nat)
  | .every => some field.everything
  | .point n => some [n]
  | .between low high =>
      if field.admits low && field.admits high && low ≤ high then some (Field.span low high)
      else none
  | .namedBetween low high => do
      let low ← field.named? low
      let high ← field.named? high
      if low ≤ high then some (Field.span low high) else none

def everyNth (step : Nat) (values : List Nat) : List Nat :=
  (values.zipIdx.filter fun (_, index) => index % step == 0).map Prod.fst

def Item.values? (field : Field) : Item → Option (List Nat)
  | .plain range => range.values? field
  | .named name => (field.named? name).map fun n => [n]
  | .stepped range step => do
      if step = 0 ∨ field.greatest < step then none
      else
        let values ←
          match range with
          | .point n => if field.admits n then some (Field.span n field.greatest) else none
          | range => range.values? field
        return everyNth step values

def fieldValues? (field : Field) (items : List Item) : Option (List Nat) := do
  let values ← items.mapM fun item => item.values? field
  let all := values.flatten
  if all.all field.admits then some (field.everything.filter all.contains) else none

def readField? (field : Field) (text : List Char) : Option (List Nat × List Char) := do
  let question := field == .dayOfMonth || field == .dayOfWeek
  let text := skipSpace text
  let (items, rest) ← readItems? question (text.length + 1) text
  let values ← fieldValues? field items
  return (values, skipSpace rest)

def readFields? (text : List Char) : Option Expression := do
  let (seconds, rest) ← readField? .second text
  let (minutes, rest) ← readField? .minute rest
  let (hours, rest) ← readField? .hour rest
  let (daysOfMonth, rest) ← readField? .dayOfMonth rest
  let (months, rest) ← readField? .month rest
  let (daysOfWeek, rest) ← readField? .dayOfWeek rest
  let (years, rest) := (readField? .year rest).getD (Field.everything .year, rest)
  if rest.isEmpty then
    return ⟨seconds, minutes, hours, daysOfMonth, months, daysOfWeek, years⟩
  else none

def readWord? (word : String) : Option Expression :=
  let whole : Expression :=
    ⟨[0], [0], [0], Field.everything .dayOfMonth, Field.everything .month,
      Field.everything .dayOfWeek, Field.everything .year⟩
  match word with
  | "@yearly" => some { whole with daysOfMonth := [1], months := [1] }
  | "@monthly" => some { whole with daysOfMonth := [1] }
  | "@weekly" => some { whole with daysOfWeek := [1] }
  | "@daily" => some whole
  | "@hourly" => some { whole with hours := Field.everything .hour }
  | _ => none

/-- The six fields in writing, the seconds being 0 when only five are given. -/
def normalized (trimmed : List Char) : Except Fault (List Char) :=
  let assemble (fields : List (List Char)) (weekdays : List Char) : Except Fault (List Char) :=
    match nameWeekdays weekdays with
    | .ok weekdays => .ok (join [' '] (fields ++ [weekdays]))
    | .error atom => .error (.weekday (String.ofList atom))
  match words trimmed with
  | [second, minute, hour, day, month, weekdays] =>
      assemble [second, minute, hour, day, month] weekdays
  | [minute, hour, day, month, weekdays] => assemble [['0'], minute, hour, day, month] weekdays
  | other => .error (.fieldCount other.length)

def readTrimmed (trimmed : List Char) : Except Fault Expression :=
  let orMalformed (found : Option Expression) : Except Fault Expression :=
    match found with
    | some expression => .ok expression
    | none => .error .malformed
  if trimmed.head? = some '@' then orMalformed (readWord? (String.ofList trimmed))
  else do
    let fields ← normalized trimmed
    orMalformed (readFields? fields)

end PowerRota.Cron
