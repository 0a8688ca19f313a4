import PowerRota.Number.Binary64
import PowerRota.Text.Quoted

/-! Lengths of time and the notation for them, such as `1h30m`.

A written duration is one or more tokens, each a number and a unit. Tokens are
found by a search that may skip characters, and the text is refused as soon as
something was skipped. The numbers are summed as doubles in seconds. -/

set_option autoImplicit false

namespace PowerRota

/-- The decimal digits of every script: general category Nd, each entry a first and a last code
point. -/
def Text.decimalDigitRanges : List (Nat × Nat) := [
  (0x30, 0x39), (0x660, 0x669), (0x6F0, 0x6F9), (0x7C0, 0x7C9), (0x966, 0x96F), (0x9E6, 0x9EF),
   (0xA66, 0xA6F), (0xAE6, 0xAEF), (0xB66, 0xB6F), (0xBE6, 0xBEF), (0xC66, 0xC6F),
   (0xCE6, 0xCEF), (0xD66, 0xD6F), (0xDE6, 0xDEF), (0xE50, 0xE59), (0xED0, 0xED9),
   (0xF20, 0xF29), (0x1040, 0x1049), (0x1090, 0x1099), (0x17E0, 0x17E9), (0x1810, 0x1819),
   (0x1946, 0x194F), (0x19D0, 0x19D9), (0x1A80, 0x1A89), (0x1A90, 0x1A99), (0x1B50, 0x1B59),
   (0x1BB0, 0x1BB9), (0x1C40, 0x1C49), (0x1C50, 0x1C59), (0xA620, 0xA629), (0xA8D0, 0xA8D9),
   (0xA900, 0xA909), (0xA9D0, 0xA9D9), (0xA9F0, 0xA9F9), (0xAA50, 0xAA59), (0xABF0, 0xABF9),
   (0xFF10, 0xFF19), (0x104A0, 0x104A9), (0x10D30, 0x10D39), (0x10D40, 0x10D49),
   (0x11066, 0x1106F), (0x110F0, 0x110F9), (0x11136, 0x1113F), (0x111D0, 0x111D9),
   (0x112F0, 0x112F9), (0x11450, 0x11459), (0x114D0, 0x114D9), (0x11650, 0x11659),
   (0x116C0, 0x116C9), (0x116D0, 0x116E3), (0x11730, 0x11739), (0x118E0, 0x118E9),
   (0x11950, 0x11959), (0x11BF0, 0x11BF9), (0x11C50, 0x11C59), (0x11D50, 0x11D59),
   (0x11DA0, 0x11DA9), (0x11DE0, 0x11DE9), (0x11F50, 0x11F59), (0x16130, 0x16139),
   (0x16A60, 0x16A69), (0x16AC0, 0x16AC9), (0x16B50, 0x16B59), (0x16D70, 0x16D79),
   (0x1CCF0, 0x1CCF9), (0x1D7CE, 0x1D7FF), (0x1E140, 0x1E149), (0x1E2F0, 0x1E2F9),
   (0x1E4F0, 0x1E4F9), (0x1E5F1, 0x1E5FA), (0x1E950, 0x1E959), (0x1FBF0, 0x1FBF9)]

def Text.isDecimalDigit (c : Char) : Bool :=
  decimalDigitRanges.any fun (first, last) => first ≤ c.toNat && c.toNat ≤ last

open Text

/-- Seconds and nanoseconds; the seconds fit in 64 bits. -/
structure Duration where
  secs : Nat
  nanos : Nat
  secs_lt : secs < 18446744073709551616
  nanos_lt : nanos < 1000000000
  deriving DecidableEq, Repr

inductive DurationFault where
  | empty
  | malformed (text : String)
  | number
  | negative
  | unrepresentable
  /-- The tokens of a written duration add up to no duration, having more seconds than fit. -/
  | overflow
  deriving DecidableEq, Repr

namespace DurationFault

def message : DurationFault → String
  | .empty => "empty duration"
  | .malformed text =>
      "invalid duration " ++ quoted text ++ ", expected e.g. 30s, 10m, 1h30m"
  | .number => "invalid float literal"
  | .negative => "cannot convert float seconds to Duration: value is negative"
  | .unrepresentable | .overflow =>
      "cannot convert float seconds to Duration: value is either too big or NaN"

/-- A fatal fault ends the program at once and is never reported as an error. -/
def isFatal (fault : DurationFault) : Bool :=
  fault == .overflow

end DurationFault

namespace Duration

def ofParts? (secs nanos : Nat) : Option Duration :=
  if h : secs < 18446744073709551616 ∧ nanos < 1000000000 then some ⟨secs, nanos, h.1, h.2⟩ else none

def ofNanos? (nanos : Nat) : Option Duration :=
  ofParts? (nanos / 1000000000) (nanos % 1000000000)

def ofSecs? (secs : Nat) : Option Duration :=
  ofParts? secs 0

def seconds (secs : Nat) (h : secs < 18446744073709551616 := by decide) : Duration :=
  ⟨secs, 0, h, by decide⟩

def milliseconds (ms : Nat) : Duration :=
  ⟨ms % 18446744073709551616 / 1000, ms % 1000 * 1000000, by omega, by omega⟩

def toNanos (d : Duration) : Nat :=
  d.secs * 1000000000 + d.nanos

def isZero (d : Duration) : Bool :=
  d.toNanos == 0

/-- A number of seconds, to the nearest nanosecond with ties to even. -/
def ofFloat (x : Float) : Except DurationFault Duration :=
  match Number.Binary64.ofFloat x with
  | .nan => .error .unrepresentable
  | .infinite negative => .error (if negative then .negative else .unrepresentable)
  | .finite value =>
      if value.negative && value.mantissa != 0 then .error .negative
      else
        match ofNanos? (value.scaledToEven 1000000000) with
        | some d => .ok d
        | none => .error .unrepresentable

inductive TimeUnit where
  | millisecond | second | minute | hour | day | week
  deriving DecidableEq, Repr

namespace TimeUnit

def seconds : TimeUnit → Float
  | .millisecond => 0.001
  | .second => 1.0
  | .minute => 60.0
  | .hour => 3600.0
  | .day => 86400.0
  | .week => 604800.0

/-- The unit at the head of a text; `ms` wins over `m`. -/
def read? : List Char → Option (TimeUnit × List Char)
  | 'm' :: 's' :: rest => some (.millisecond, rest)
  | 's' :: rest => some (.second, rest)
  | 'm' :: rest => some (.minute, rest)
  | 'h' :: rest => some (.hour, rest)
  | 'd' :: rest => some (.day, rest)
  | 'w' :: rest => some (.week, rest)
  | _ => none

theorem length_read? {text rest : List Char} {unit : TimeUnit} (h : read? text = some (unit, rest)) :
    rest.length < text.length := by
  unfold read? at h
  split at h <;> simp at h <;> obtain ⟨_, rfl⟩ := h <;> simp only [List.length_cons] <;> omega

end TimeUnit

/-- A number as it stands in a token: digits of any script, and a fraction. -/
structure Token where
  whole : List Char
  fraction : List Char
  unit : TimeUnit
  deriving Repr

def tokenHere? (text : List Char) : Option (Token × List Char) :=
  let whole := text.takeWhile isDecimalDigit
  let rest := text.dropWhile isDecimalDigit
  if whole.isEmpty then none
  else
    let (fraction, rest) :=
      match rest with
      | '.' :: after =>
          let fraction := after.takeWhile isDecimalDigit
          if fraction.isEmpty then ([], rest) else (fraction, after.dropWhile isDecimalDigit)
      | _ => ([], rest)
    (TimeUnit.read? rest).map fun (unit, rest) => (⟨whole, fraction, unit⟩, rest)

theorem length_dropWhile_le (p : Char → Bool) (text : List Char) :
    (text.dropWhile p).length ≤ text.length := by
  induction text with
  | nil => simp
  | cons c rest ih =>
    simp only [List.dropWhile]
    split
    · simp only [List.length_cons]; omega
    · exact Nat.le_refl _

theorem length_tokenHere? {text rest : List Char} {token : Token}
    (h : tokenHere? text = some (token, rest)) : rest.length < text.length := by
  unfold tokenHere? at h
  simp only at h
  split at h
  · simp at h
  · have whole := length_dropWhile_le isDecimalDigit text
    obtain ⟨⟨unit, after⟩, read, same⟩ := Option.map_eq_some_iff.mp h
    simp only [Prod.mk.injEq] at same
    obtain ⟨_, rfl⟩ := same
    have shorter := TimeUnit.length_read? read
    split at shorter
    next after shape =>
      split at shorter
      · simp only at shorter
        omega
      · simp only at shorter
        have := length_dropWhile_le isDecimalDigit after
        rw [shape] at whole
        simp only [List.length_cons] at whole
        omega
    next => simp only at shorter; omega

/-- The leftmost token, with what was skipped to reach it. -/
def findToken? : List Char → Option (List Char × Token × List Char)
  | [] => none
  | c :: rest =>
      match tokenHere? (c :: rest) with
      | some (token, after) => some ([], token, after)
      | none => (findToken? rest).map fun (skipped, found) => (c :: skipped, found)

def tokens (text : List Char) : List Token × List Char :=
  match found : findToken? text with
  | some ([], token, rest) =>
      have : rest.length < text.length := by
        cases text with
        | nil => simp [findToken?] at found
        | cons c tail =>
          simp only [findToken?] at found
          split at found
          next after here =>
            simp only [Option.some.injEq, Prod.mk.injEq] at found
            obtain ⟨_, rfl, rfl⟩ := found
            exact length_tokenHere? here
          next => simp at found
      let (others, left) := tokens rest
      (token :: others, left)
  | _ => ([], text)
termination_by text.length

namespace Token

/-- The number of a token; only ASCII digits make one. -/
def number? (token : Token) : Option Float :=
  if token.whole.all isDigit && token.fraction.all isDigit then
    some (Number.ofDecimal (digitsValue (token.whole ++ token.fraction)) (-token.fraction.length))
  else none

def seconds? (token : Token) : Option Float :=
  token.number?.map fun n => n * token.unit.seconds

end Token

def read (text : String) : Except DurationFault Duration :=
  let trimmed := trim text.toList
  if trimmed.isEmpty then .error .empty
  else
    let (found, left) := tokens trimmed
    match found.mapM Token.seconds? with
    | none => .error .number
    | some terms =>
        if left.isEmpty then
          match ofFloat (terms.foldl (· + ·) 0.0) with
          | .ok d => .ok d
          | .error _ => .error .overflow
        else .error (.malformed text)

end Duration

end PowerRota
