import PowerRota.Text.Blank

/-! Paths in writing: components between slashes, names and extensions. -/

set_option autoImplicit false

namespace PowerRota.Path

open Text

/-- The components, without the empty ones and those that stay in place. A first
component that stays in place is kept. -/
def components (path : String) : List String :=
  let parts := (split '/' path.toList).map String.ofList
  match parts with
  | "." :: rest => "." :: rest.filter fun part => part ≠ "" ∧ part ≠ "."
  | parts => parts.filter fun part => part ≠ "" ∧ part ≠ "."

def isAbsolute (path : String) : Bool :=
  path.toList.head? == some '/'

def fileName? (path : String) : Option String :=
  match (components path).getLast? with
  | some name => if name = "." ∨ name = ".." then none else some name
  | none => none

/-- The part of a file name after its last point; a point at the start of the name
does not count. -/
def extension? (path : String) : Option String := do
  let name ← fileName? path
  let parts := split '.' name.toList
  let before := parts.dropLast
  if before.isEmpty || before = [[]] then none
  else parts.getLast?.map String.ofList

/-- Whether a path names a manifest: `.yaml` or `.yml`, in any case. -/
def isManifest (path : String) : Bool :=
  match extension? path with
  | some extension =>
      let lower := lowerAscii extension
      lower == "yaml" || lower == "yml"
  | none => false

/-- A path below a folder; an absolute one stands for itself. -/
def below (folder path : String) : String :=
  if isAbsolute path || folder = "" then path
  else if folder.toList.getLast? = some '/' then folder ++ path
  else folder ++ "/" ++ path

def dropEnd (reversed : List Char) : (fuel : Nat) → List Char
  | 0 => reversed
  | fuel + 1 =>
      match reversed with
      | ['/'] => reversed
      | '/' :: rest => dropEnd rest fuel
      | '.' :: '/' :: rest => dropEnd ('/' :: rest) fuel
      | _ => reversed

def parent? (path : String) : Option String :=
  let reversed := dropEnd path.toList.reverse path.length
  if reversed.isEmpty || reversed = ['/'] then none
  else
    let above := reversed.dropWhile (· ≠ '/')
    some (String.ofList (dropEnd above above.length).reverse)

end PowerRota.Path
