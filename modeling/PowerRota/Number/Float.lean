import PowerRota.Number.Binary64

/-! Doubles in writing: digits with an optional point and an optional power of ten. -/

set_option autoImplicit false

namespace PowerRota.Number

open Text

def readSign : List Char → Bool × List Char
  | '-' :: rest => (true, rest)
  | '+' :: rest => (false, rest)
  | text => (false, text)

def readPower? : List Char → Option Int
  | [] => some 0
  | c :: rest =>
      if c = 'e' ∨ c = 'E' then
        let (negative, digits) := readSign rest
        (readNat digits).map fun n => if negative then -(n : Int) else n
      else none

def readUnsigned? (text : List Char) : Option Float :=
  let whole := text.takeWhile isDigit
  let rest := text.dropWhile isDigit
  let (fraction, rest) := match rest with
    | '.' :: after => (after.takeWhile isDigit, after.dropWhile isDigit)
    | _ => ([], rest)
  if whole.isEmpty && fraction.isEmpty then none
  else (readPower? rest).map fun power => ofDecimal (digitsValue (whole ++ fraction)) (power - fraction.length)

def infinity : Float := Float.ofBits 0x7FF0000000000000

def notANumber : Float := Float.ofBits 0x7FF8000000000000

def readWord? (text : List Char) : Option Float :=
  let word := String.ofList (text.map Char.toLower)
  if word = "inf" ∨ word = "infinity" then some infinity
  else if word = "nan" then some notANumber
  else none

def readFloat? (text : List Char) : Option Float :=
  let (negative, rest) := readSign text
  (readWord? rest <|> readUnsigned? rest).map fun x => if negative then -x else x

def readFinite? (text : List Char) : Option Float := do
  let x ← readFloat? text
  match Binary64.ofFloat x with
  | .finite _ => some x
  | _ => none

end PowerRota.Number
