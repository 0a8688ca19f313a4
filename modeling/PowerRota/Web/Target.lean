import PowerRota.Text.Blank

/-! The line that opens a request: a method, and a target, which is a path with a query
or the address of a server. -/

set_option autoImplicit false

namespace PowerRota.Web

def isPathChar (c : Char) : Bool :=
  let n := c.toNat
  n == 0x21 || n == 0x22 || (0x24 ≤ n && n ≤ 0x3B) || n == 0x3D || (0x40 ≤ n && n ≤ 0x5F) ||
    (0x61 ≤ n && n ≤ 0x7E) || 0x80 ≤ n

def isQueryChar (c : Char) : Bool :=
  isPathChar c || c == '?' || c == '\x60'

def isHostChar (c : Char) : Bool :=
  c.isAlphanum || "-._~!$&'()*+,;=:@[]%".contains c

def pathOf? (target : List Char) : Option String :=
  let target := target.takeWhile (· ≠ '#')
  let path := target.takeWhile (· ≠ '?')
  let query := (target.dropWhile (· ≠ '?')).drop 1
  if path.all isPathChar && query.all isQueryChar then some (String.ofList path) else none

def targetPath? (target : String) : Option String :=
  match target.toList with
  | [] => none
  | '/' :: rest => pathOf? ('/' :: rest)
  | ['*'] => some "*"
  | chars =>
      let afterScheme := match chars with
        | 'h' :: 't' :: 't' :: 'p' :: ':' :: '/' :: '/' :: rest => some rest
        | 'h' :: 't' :: 't' :: 'p' :: 's' :: ':' :: '/' :: '/' :: rest => some rest
        | _ => none
      match afterScheme with
      | some rest =>
          let host := rest.takeWhile isHostChar
          let path := rest.dropWhile isHostChar
          if host.isEmpty then none
          else if path.isEmpty then some "/"
          else
            match path with
            | '/' :: _ | '?' :: _ | '#' :: _ =>
                (pathOf? path).map fun found => if found = "" then "/" else found
            | _ => none
      | none => if chars.all isHostChar then some "" else none

def isMethod (method : String) : Bool :=
  !method.isEmpty && method.toList.all fun c => c.isAlphanum || "!#$%&'*+-.^_\x60|~".contains c

end PowerRota.Web
