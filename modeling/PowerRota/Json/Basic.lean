/-! JSON values.

An object is the list of its members in the order they were written, so it can
hold a name twice. `normalize` gives the map that the object stands for: sorted
by name, the last of several members of one name kept. -/

set_option autoImplicit false

namespace PowerRota

inductive Json where
  | null
  | bool (value : Bool)
  | int (value : Int)
  | float (value : Float)
  | string (value : String)
  | array (items : List Json)
  | object (members : List (String × Json))
  deriving Inhabited

namespace Json

def insertMember {A : Type} (name : String) (value : A) : List (String × A) → List (String × A)
  | [] => [(name, value)]
  | (other, old) :: rest =>
      if name < other then (name, value) :: (other, old) :: rest
      else if name = other then (name, value) :: rest
      else (other, old) :: insertMember name value rest

def sortMembers {A : Type} (members : List (String × A)) : List (String × A) :=
  members.foldl (fun sorted (name, value) => insertMember name value sorted) []

mutual

def normalize : Json → Json
  | array items => array (normalizeItems items)
  | object members => object (sortMembers (normalizeMembers members))
  | other => other

def normalizeItems : List Json → List Json
  | [] => []
  | item :: rest => normalize item :: normalizeItems rest

def normalizeMembers : List (String × Json) → List (String × Json)
  | [] => []
  | (name, value) :: rest => (name, normalize value) :: normalizeMembers rest

end

def member? (json : Json) (name : String) : Option Json :=
  match json with
  | object members => members.lookup name
  | _ => none

def string? : Json → Option String
  | string s => some s
  | _ => none

end Json

end PowerRota
