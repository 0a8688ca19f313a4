import PowerRota.Json.Basic
import PowerRota.Number.Binary64
import PowerRota.Text.Decimal
import PowerRota.Text.Quoted

/-! Writing JSON text without white space, members in their order. -/

set_option autoImplicit false

namespace PowerRota.Json

open Text

def escape (c : Char) : List Char :=
  match c with
  | '"' => ['\\', '"']
  | '\\' => ['\\', '\\']
  | '\x08' => ['\\', 'b']
  | '\x0c' => ['\\', 'f']
  | '\n' => ['\\', 'n']
  | '\r' => ['\\', 'r']
  | '\t' => ['\\', 't']
  | c =>
      if c.toNat < 0x20 then
        let digits := hexadecimal c.toNat
        ['\\', 'u'] ++ List.replicate (4 - digits.length) '0' ++ digits
      else [c]

def writeString (s : String) : String :=
  String.ofList ('"' :: (s.toList.flatMap escape ++ ['"']))

mutual

def write : Json → String
  | null => "null"
  | bool true => "true"
  | bool false => "false"
  | int n => String.ofList (decimalInt n)
  | float x => Number.scientific.render x
  | string s => writeString s
  | array items => "[" ++ writeItems items ++ "]"
  | object members => "\x7b" ++ writeMembers members ++ "\x7d"

def writeItems : List Json → String
  | [] => ""
  | [item] => write item
  | item :: rest => write item ++ "," ++ writeItems rest

def writeMembers : List (String × Json) → String
  | [] => ""
  | [(name, value)] => writeString name ++ ":" ++ write value
  | (name, value) :: rest => writeString name ++ ":" ++ write value ++ "," ++ writeMembers rest

end

end PowerRota.Json
