import PowerRota.Number.Float
import PowerRota.Text.Decimal
import PowerRota.Yaml.Node

/-! Values of settings before they are given a type, and tables of them.

Names in a table are in lower case. Putting a table where a table stands merges the
two; anything else replaces what was there. -/

set_option autoImplicit false

namespace PowerRota.Config

open Text

inductive Value where
  | null
  | bool (value : Bool)
  | int (value : Int)
  | float (value : Float)
  | string (value : String)
  | list
  | table (entries : List (String × Value))
  deriving Inhabited

abbrev Table := List (String × Value)

namespace Table

def get? (table : Table) (name : String) : Option Value := table.lookup name

def put (name : String) (value : Value) : Table → Table
  | [] => [(name, value)]
  | (other, old) :: rest =>
      if other = name then (other, value) :: rest else (other, old) :: put name value rest

theorem get?_put (table : Table) (name other : String) (value : Value) :
    get? (put name value table) other = if other = name then some value else get? table other := by
  induction table with
  | nil =>
    by_cases h : other = name
    · simp [put, get?, h]
    · have : (other == name) = false := by simpa using h
      simp [put, get?, List.lookup_cons, h, this]
  | cons head rest ih =>
    obtain ⟨thing, old⟩ := head
    simp only [get?] at ih ⊢
    by_cases same : thing = name
    · subst same
      by_cases h : other = thing
      · simp [put, h]
      · have : (other == thing) = false := by simpa using h
        simp [put, List.lookup_cons, h, this]
    · by_cases h : other = thing
      · subst h; simp [put, same]
      · have : (other == thing) = false := by simpa using h
        simp only [put, same, if_false, List.lookup_cons, this, ih]

end Table

def Value.asTable : Value → Table
  | .table entries => entries
  | _ => []

mutual

/-- Put a value into a table. The entries of a table are put one by one into the
table under its name; an empty table changes nothing that stands there. -/
def Table.merge (table : Table) (name : String) : Value → Table
  | .table entries =>
      let key := lowerAscii name
      let below := (table.get? key).getD (.table [])
      table.put key (if entries.isEmpty then below else .table (mergeEntries below.asTable entries))
  | value => table.put (lowerAscii name) value

def mergeEntries (table : Table) : List (String × Value) → Table
  | [] => table
  | (name, value) :: rest => mergeEntries (Table.merge table name value) rest

end

/-- A step from a value into a part of it. -/
inductive Step where
  | name (name : String)
  | index

def isNameChar (c : Char) : Bool :=
  c.isAlphanum || c == '_' || c == '-' || c == ' '

def readSteps : (fuel : Nat) → List Char → Option (List Step)
  | _, [] => some []
  | 0, _ => none
  | fuel + 1, '.' :: rest =>
      let name := rest.takeWhile isNameChar
      if name.isEmpty then none
      else (readSteps fuel (rest.dropWhile isNameChar)).map (.name (String.ofList name) :: ·)
  | fuel + 1, '[' :: rest =>
      match (rest.takeWhile (· ≠ ']')), (rest.dropWhile (· ≠ ']')) with
      | number, ']' :: rest =>
          if (readInt number).isSome && number.head? ≠ some '+' then
            (readSteps fuel rest).map (.index :: ·)
          else none
      | _, _ => none
  | _, _ => none

def readKey (key : String) : Option (String × List Step) :=
  let text := key.toList
  let name := text.takeWhile isNameChar
  if name.isEmpty then none
  else (readSteps text.length (text.dropWhile isNameChar)).map fun steps => (String.ofList name, steps)

/-- Put a value below a value, which becomes what the steps need it to be. -/
def Value.putBelow (value : Value) : List Step → Value → Value
  | [], inner => inner
  | [.name name], inner => .table (Table.merge value.asTable name inner)
  | .name name :: steps, inner =>
      let below := (value.asTable.get? name).getD .null
      .table (value.asTable.put name (below.putBelow steps inner))
  | .index :: _, _ => .list

def Table.set (table : Table) (key : String) (value : Value) : Table :=
  match readKey key with
  | some (name, step :: steps) =>
      table.put name (((table.get? name).getD .null).putBelow (step :: steps) value)
  | _ => table.merge key value

def Table.layer (table : Table) (entries : Table) : Table :=
  entries.foldl (fun table (key, value) => table.set key value) table

inductive SourceFault where
  | grammar
  | number
  | key
  | root
  deriving DecidableEq, Repr

namespace Value

open PowerRota.Yaml (ScalarStyle)

def word? (n? : Option Int) : Option Int :=
  n?.filter fun n => -(Number.capacity 63) ≤ n && n < Number.capacity 63

def digits? (radix : Nat) (text : List Char) : Option Int :=
  let (negative, digits) := Number.readSign text
  let value (c : Char) : Option Nat := (Char.toNat <$> some c.toLower).bind fun n =>
    let d := if 0x30 ≤ n ∧ n ≤ 0x39 then some (n - 0x30)
      else if 0x61 ≤ n ∧ n ≤ 0x7A then some (n - 0x61 + 10) else none
    d.filter (· < radix)
  if digits.isEmpty then none
  else (digits.mapM value).map fun values =>
    let n : Int := (values.foldl (fun n d => n * radix + d) 0 : Nat)
    if negative then -n else n

def marked? (text : List Char) : Option Int :=
  match text with
  | '0' :: 'x' :: digits => word? (digits? 16 digits)
  | '0' :: 'o' :: digits => word? (digits? 8 digits)
  | '+' :: rest => word? (readInt rest)
  | _ => none

def infinityWords : List String :=
  [".inf", ".Inf", ".INF", "+.inf", "+.Inf", "+.INF", "-.inf", "-.Inf", "-.INF", ".nan", "NaN",
    ".NAN"]

/-- A number with a point or an exponent. The words for infinity count as numbers,
but only those that digits are read like have a value. -/
def float? (text : String) : Option (Except SourceFault Float) :=
  match Number.readFloat? text.toList with
  | some x => some (.ok x)
  | none => if infinityWords.contains text then some (.error .number) else none

def ofPlain (text : String) : Except SourceFault Value :=
  match marked? text.toList with
  | some n => .ok (.int n)
  | none =>
      if text = "~" ∨ text = "null" then .ok .null
      else if text = "true" then .ok (.bool true)
      else if text = "false" then .ok (.bool false)
      else
        match word? (readInt text.toList), float? text with
        | some n, _ => .ok (.int n)
        | none, some x => x.map .float
        | none, none => .ok (.string text)

/-- What a scalar with a tag stands for; what does not fit its tag is null. -/
def ofTagged (tag text : String) : Except SourceFault Value :=
  if tag = "tag:yaml.org,2002:bool" then
    .ok (if text = "true" then .bool true else if text = "false" then .bool false else .null)
  else if tag = "tag:yaml.org,2002:int" then
    .ok (match word? (readInt text.toList) with | some n => .int n | none => .null)
  else if tag = "tag:yaml.org,2002:float" then
    match float? text with
    | some x => x.map .float
    | none => .ok .null
  else if tag = "tag:yaml.org,2002:null" then .ok .null
  else .ok (.string text)

def keyText : Except SourceFault Value → Except SourceFault String
  | .ok (.string s) => .ok s
  | .ok (.int n) => .ok (String.ofList (decimalInt n))
  | _ => .error .key

/-- The value of a node. Of several entries with one key the last counts. -/
def ofNode (document : Yaml.Document) : (depth : Nat) → Yaml.Node → Except SourceFault Value
  | 0, _ => .ok .null
  | depth + 1, node =>
      match node with
      | .scalar tag style text =>
          match style, tag with
          | .quoted, _ => .ok (.string text)
          | .plain, some tag => ofTagged tag text
          | .plain, none => if text = "" then .ok .null else ofPlain text
      | .sequence _ items => do
          let _ ← items.mapM (ofNode document depth)
          return .list
      | .mapping _ entries => do
          let table ← entries.foldlM
            (fun (table : Table) (entry : Yaml.Node × Yaml.Node) => do
              let key ← keyText (ofNode document depth entry.1)
              return table.put key (← ofNode document depth entry.2))
            []
          return .table table
      | .alias turn _ =>
          match document.atTurn? turn with
          | some target => ofNode document depth target
          | none => .ok .null

end Value

/-- The table of a text: one document that is a map or null, or none at all. -/
def Table.ofText (text : String) : Except SourceFault Table :=
  match (Yaml.Document.ofText text).mapM id with
  | .error _ => .error .grammar
  | .ok [] => .ok []
  | .ok [document] => do
      match ← Value.ofNode document 1000 document.root with
      | .table entries => return entries
      | .null => return []
      | _ => throw .root
  | .ok _ => .error .root

end PowerRota.Config
