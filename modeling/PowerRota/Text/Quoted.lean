import PowerRota.Text.Unprintable

/-! Text in messages: what is shown between double quotes, and sentences for texts that do not
follow their grammar.

A quote and a backslash are escaped, the common control characters have short
names, and what a terminal would not show is written as its code point. A single
quote stays as it is. The grammars of dates, cron expressions and documents say only that a
text is not of theirs; how that is put into words is up to whoever shows the message. -/

set_option autoImplicit false

namespace PowerRota

structure Wording where
  cron : String
  instant : String
  yaml : String
  json : String
  config : String
  settingType : String

def Wording.english : Wording where
  cron := "not a cron expression"
  instant := "not a date and time"
  yaml := "not a YAML document"
  json := "not a JSON document"
  config := "not a configuration file"
  settingType := "wrong type for"

end PowerRota

namespace PowerRota.Text

def hexadecimal (n : Nat) : List Char :=
  Nat.toDigits 16 n

def escapeChar (c : Char) : List Char :=
  match c with
  | '\x00' => ['\\', '0']
  | '\t' => ['\\', 't']
  | '\n' => ['\\', 'n']
  | '\r' => ['\\', 'r']
  | '"' => ['\\', '"']
  | '\\' => ['\\', '\\']
  | c =>
      if c.toNat < 0x20 || c.toNat = 0x7F || (0x80 ≤ c.toNat && isUnprintable c) then
        '\\' :: 'u' :: '\x7b' :: (hexadecimal c.toNat ++ ['\x7d'])
      else [c]

def quoted (text : String) : String :=
  String.ofList ('"' :: (text.toList.flatMap escapeChar ++ ['"']))

end PowerRota.Text
