import PowerRota.Json.Basic
import PowerRota.Number.Binary64
import PowerRota.Text.Decimal

/-! Reading JSON text.

A number without fraction and exponent is a whole number if it fits in 64 bits,
signed or not; every other number is a double, infinite when out of range. The
text must hold one value and nothing else but white space. -/

set_option autoImplicit false

namespace PowerRota.Json

open Text

def isSpace (c : Char) : Bool :=
  c == ' ' || c == '\t' || c == '\n' || c == '\r'

def skipSpace (text : List Char) : List Char :=
  text.dropWhile isSpace

def hexValue? (c : Char) : Option Nat :=
  if isDigit c then some (digitValue c)
  else if 'a' ≤ c ∧ c ≤ 'f' then some (c.toNat - 'a'.toNat + 10)
  else if 'A' ≤ c ∧ c ≤ 'F' then some (c.toNat - 'A'.toNat + 10)
  else none

def readUnit? : List Char → Option (Nat × List Char)
  | a :: b :: c :: d :: rest => do
      let a ← hexValue? a
      let b ← hexValue? b
      let c ← hexValue? c
      let d ← hexValue? d
      return (((a * 16 + b) * 16 + c) * 16 + d, rest)
  | _ => none

def isHighSurrogate (unit : Nat) : Bool :=
  0xD800 ≤ unit && unit ≤ 0xDBFF

def isLowSurrogate (unit : Nat) : Bool :=
  0xDC00 ≤ unit && unit ≤ 0xDFFF

def readEscapedUnit? (text : List Char) : Option (Char × List Char) := do
  let (unit, rest) ← readUnit? text
  if isHighSurrogate unit then
    match rest with
    | '\\' :: 'u' :: rest =>
        let (low, rest) ← readUnit? rest
        if isLowSurrogate low then
          return (Char.ofNat (0x10000 + (unit - 0xD800) * 0x400 + (low - 0xDC00)), rest)
        else none
    | _ => none
  else if isLowSurrogate unit then none
  else return (Char.ofNat unit, rest)

def shortEscape? : Char → Option Char
  | '"' => some '"'
  | '\\' => some '\\'
  | '/' => some '/'
  | 'b' => some '\x08'
  | 'f' => some '\x0c'
  | 'n' => some '\n'
  | 'r' => some '\r'
  | 't' => some '\t'
  | _ => none

def readString? : (fuel : Nat) → List Char → (seen : List Char) → Option (String × List Char)
  | 0, _, _ => none
  | fuel + 1, text, seen =>
      match text with
      | '"' :: rest => some (String.ofList seen.reverse, rest)
      | '\\' :: 'u' :: rest =>
          match readEscapedUnit? rest with
          | some (c, rest) => readString? fuel rest (c :: seen)
          | none => none
      | '\\' :: c :: rest =>
          match shortEscape? c with
          | some c => readString? fuel rest (c :: seen)
          | none => none
      | c :: rest => if c.toNat < 0x20 then none else readString? fuel rest (c :: seen)
      | [] => none

def readExponent? : List Char → Option (Int × List Char)
  | c :: rest =>
      if c = 'e' ∨ c = 'E' then
        let (sign, rest) : Int × List Char :=
          match rest with
          | '+' :: rest => (1, rest)
          | '-' :: rest => (-1, rest)
          | _ => (1, rest)
        let digits := rest.takeWhile isDigit
        if digits.isEmpty then none
        else some (sign * (digitsValue digits : Int), rest.dropWhile isDigit)
      else some (0, c :: rest)
  | [] => some (0, [])

def readNumber? (text : List Char) : Option (Json × List Char) := do
  let (negative, text) :=
    match text with
    | '-' :: rest => (true, rest)
    | _ => (false, text)
  let whole := text.takeWhile isDigit
  let rest := text.dropWhile isDigit
  if whole.isEmpty || (whole.length != 1 && whole.head? == some '0') then none
  else
    let fraction ←
      match rest with
      | '.' :: after =>
          let digits := after.takeWhile isDigit
          if digits.isEmpty then none else some (some digits, after.dropWhile isDigit)
      | _ => some (none, rest)
    let (exponent, left) ← readExponent? fraction.2
    let isWhole := fraction.1.isNone && left.length == fraction.2.length
    let value : Int := digitsValue whole
    let signed := if negative then -value else value
    if isWhole && -(Number.capacity 63) ≤ signed && signed < Number.capacity 64 && !(negative && value == 0) then
      return (int signed, left)
    else
      let digits := fraction.1.getD []
      let magnitude := Number.ofDecimal (digitsValue (whole ++ digits)) (exponent - digits.length)
      return (float (if negative then -magnitude else magnitude), left)

def readWord? (word : String) (value : Json) (text : List Char) : Option (Json × List Char) :=
  let letters := word.toList
  if letters.isPrefixOf text then some (value, text.drop letters.length) else none

mutual

def readValue? : (fuel : Nat) → List Char → Option (Json × List Char)
  | 0, _ => none
  | fuel + 1, text =>
      match skipSpace text with
      | '[' :: rest =>
          match skipSpace rest with
          | ']' :: rest => some (array [], rest)
          | rest => (readItems? fuel rest).map fun (items, rest) => (array items, rest)
      | '\x7b' :: rest =>
          match skipSpace rest with
          | '\x7d' :: rest => some (object [], rest)
          | rest => (readMembers? fuel rest).map fun (members, rest) => (object members, rest)
      | '"' :: rest => (readString? (rest.length + 1) rest []).map fun (s, rest) => (string s, rest)
      | 'n' :: rest => readWord? "null" null ('n' :: rest)
      | 't' :: rest => readWord? "true" (bool true) ('t' :: rest)
      | 'f' :: rest => readWord? "false" (bool false) ('f' :: rest)
      | rest => readNumber? rest

def readItems? : (fuel : Nat) → List Char → Option (List Json × List Char)
  | 0, _ => none
  | fuel + 1, text => do
      let (item, rest) ← readValue? fuel text
      match skipSpace rest with
      | ',' :: rest =>
          let (items, rest) ← readItems? fuel rest
          return (item :: items, rest)
      | ']' :: rest => return ([item], rest)
      | _ => none

def readMembers? : (fuel : Nat) → List Char → Option (List (String × Json) × List Char)
  | 0, _ => none
  | fuel + 1, text =>
      match skipSpace text with
      | '"' :: rest => do
          let (name, rest) ← readString? (rest.length + 1) rest []
          match skipSpace rest with
          | ':' :: rest =>
              let (value, rest) ← readValue? fuel rest
              match skipSpace rest with
              | ',' :: rest =>
                  let (members, rest) ← readMembers? fuel rest
                  return ((name, value) :: members, rest)
              | '\x7d' :: rest => return ([(name, value)], rest)
              | _ => none
          | _ => none
      | _ => none

end

def read? (text : String) : Option Json :=
  let chars := text.toList
  match readValue? (chars.length + 1) chars with
  | some (value, rest) => if (skipSpace rest).isEmpty then some value else none
  | none => none

end PowerRota.Json
