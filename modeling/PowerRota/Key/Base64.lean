import PowerRota.Text.Decimal

/-! Octets written with 64 characters, six bits each. Groups of four characters stand
for three octets; the last group may be filled up, and what fills it up is zero. -/

set_option autoImplicit false

namespace PowerRota.Key.Base64

open Text

def value? (c : Char) : Option Nat :=
  if 'A' ≤ c ∧ c ≤ 'Z' then some (c.toNat - 'A'.toNat)
  else if 'a' ≤ c ∧ c ≤ 'z' then some (c.toNat - 'a'.toNat + 26)
  else if isDigit c then some (digitValue c + 52)
  else if c = '+' then some 62
  else if c = '/' then some 63
  else none

def decode? : List Char → Option (List UInt8)
  | [] => some []
  | [a, b, '=', '='] => do
      let a ← value? a
      let b ← value? b
      if b % 16 = 0 then some [UInt8.ofNat (a * 4 + b / 16)] else none
  | [a, b, c, '='] => do
      let a ← value? a
      let b ← value? b
      let c ← value? c
      if c % 4 = 0 then
        some [UInt8.ofNat (a * 4 + b / 16), UInt8.ofNat (b % 16 * 16 + c / 4)]
      else none
  | a :: b :: c :: d :: rest => do
      let a ← value? a
      let b ← value? b
      let c ← value? c
      let d ← value? d
      return UInt8.ofNat (a * 4 + b / 16) :: UInt8.ofNat (b % 16 * 16 + c / 4) ::
        UInt8.ofNat (c % 4 * 64 + d) :: (← decode? rest)
  | _ => none

end PowerRota.Key.Base64
