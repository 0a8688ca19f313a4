/-! Classes of characters in YAML text. -/

set_option autoImplicit false

namespace PowerRota.Yaml

def isAllowed (c : Char) : Bool :=
  let n := c.toNat
  n == 0x09 || n == 0x0A || n == 0x0D || (0x20 ≤ n && n ≤ 0x7E) || n == 0x85 ||
    (0xA0 ≤ n && n ≤ 0xFFFD) || 0x10000 ≤ n

def isBreak (c : Char) : Bool :=
  c == '\n' || c == '\r' || c == '\x85' || c == '\u2028' || c == '\u2029'

def isBlank (c : Char) : Bool :=
  c == ' ' || c == '\t'

def isWordChar (c : Char) : Bool :=
  c.isAlphanum || c == '_' || c == '-'

def isTagChar (c : Char) : Bool :=
  isWordChar c || ";/?:@&=+$.%!~*'()".contains c

def endsWord : Option Char → Bool
  | none => true
  | some c => isBlank c || isBreak c

def endsLine : Option Char → Bool
  | none => true
  | some c => isBreak c

def isFlowMark (c : Char) : Bool :=
  c == ',' || c == '[' || c == ']' || c == '\x7b' || c == '\x7d'

end PowerRota.Yaml
