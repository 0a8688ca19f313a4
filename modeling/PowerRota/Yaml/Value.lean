import PowerRota.Number.Float
import PowerRota.Yaml.Node

/-! Values of YAML documents, after the core schema of version 1.2.

Plain scalars stand for null, truth values, numbers or their own text; quoted ones
always for their text. Aliases are replaced by what they refer to. A local tag is
kept with its value; a tag of the schema decides what its scalar is read as. -/

set_option autoImplicit false

namespace PowerRota.Yaml

open Number

inductive Value where
  | null
  | bool (value : Bool)
  | int (value : Int)
  | float (value : Float)
  | string (value : String)
  | sequence (items : List Value)
  | mapping (entries : List (Value × Value))
  | tagged (tag : String) (value : Value)
  deriving Inhabited

/-- Floats agree when they are equal or both no number. -/
def sameFloat (x y : Float) : Bool :=
  x == y || (x.isNaN && y.isNaN)

mutual

def Value.same : Value → Value → Bool
  | .null, .null => true
  | .bool x, .bool y => x == y
  | .int x, .int y => x == y
  | .float x, .float y => sameFloat x y
  | .string x, .string y => x == y
  | .sequence xs, .sequence ys => sameItems xs ys
  | .mapping xs, .mapping ys => xs.length == ys.length && sameEntries xs ys
  | .tagged s x, .tagged t y => s == t && Value.same x y
  | _, _ => false

def sameItems : List Value → List Value → Bool
  | [], [] => true
  | x :: xs, y :: ys => Value.same x y && sameItems xs ys
  | _, _ => false

def sameEntries : List (Value × Value) → List (Value × Value) → Bool
  | [], _ => true
  | (key, value) :: rest, others =>
      (others.any fun (other, held) => Value.same key other && Value.same value held) &&
        sameEntries rest others

end

namespace Scalar

def isNull (text : String) : Bool :=
  text == "null" || text == "Null" || text == "NULL" || text == "~"

def bool? (text : String) : Option Bool :=
  if text == "true" || text == "True" || text == "TRUE" then some true
  else if text == "false" || text == "False" || text == "FALSE" then some false
  else none

def digitIn? (radix : Nat) (c : Char) : Option Nat :=
  let value? :=
    if '0' ≤ c && c ≤ '9' then some (c.toNat - 0x30)
    else if 'a' ≤ c && c ≤ 'z' then some (c.toNat - 0x61 + 10)
    else if 'A' ≤ c && c ≤ 'Z' then some (c.toNat - 0x41 + 10)
    else none
  value?.filter (· < radix)

def natIn? (radix : Nat) (digits : List Char) : Option Nat :=
  if digits.isEmpty then none
  else (digits.mapM (digitIn? radix)).map fun values => values.foldl (fun n d => n * radix + d) 0

/-- More than one digit, the first a zero: such a text is not a number. -/
def isPadded (digits : List Char) : Bool :=
  match digits with
  | '0' :: rest => !rest.isEmpty && rest.all Text.isDigit
  | _ => false

def unsignedInt? (text : List Char) : Option Nat :=
  let marked := match text with
    | '0' :: 'x' :: digits => natIn? 16 digits
    | '0' :: 'o' :: digits => natIn? 8 digits
    | '0' :: 'b' :: digits => natIn? 2 digits
    | _ => none
  marked <|> (if isPadded text then none else natIn? 10 text)

def int? (text : List Char) : Option Int :=
  match text with
  | '-' :: rest => (unsignedInt? rest).map fun n => -(n : Int)
  | '+' :: rest => (unsignedInt? rest).map Int.ofNat
  | _ => (unsignedInt? text).map Int.ofNat

/-- Numbers of up to 64 bits are read; up to 128 bits they are refused, and beyond
that they are no whole numbers any more. -/
def fits (bits : Nat) (n : Int) : Bool :=
  -(capacity (bits - 1)) ≤ n && n < capacity bits

def float? (text : List Char) : Option Float :=
  let afterPlus := match text with
    | '+' :: rest => rest
    | _ => text
  let word := String.ofList afterPlus
  let whole := String.ofList text
  if text.head? == some '+' && (afterPlus.head? == some '+' || afterPlus.head? == some '-') then none
  else if word == ".inf" || word == ".Inf" || word == ".INF" then some infinity
  else if whole == "-.inf" || whole == "-.Inf" || whole == "-.INF" then some (-infinity)
  else if whole == ".nan" || whole == ".NaN" || whole == ".NAN" then some notANumber
  else readFinite? afterPlus

def unsigned (text : List Char) : List Char :=
  match text with
  | '-' :: rest | '+' :: rest => rest
  | _ => text

def boundedInt? (text : List Char) : Option (Except Fault Int) :=
  match (int? text).filter (fits 128) with
  | some n => some (if fits 64 n then .ok n else .error .wideInteger)
  | none => none

def plain (text : String) : Except Fault Value :=
  let chars := text.toList
  if text.isEmpty || isNull text then .ok .null
  else
    match bool? text with
    | some b => .ok (.bool b)
    | none =>
        match boundedInt? chars with
        | some n => n.map .int
        | none =>
            match (if isPadded (unsigned chars) then none else float? chars) with
            | some x => .ok (.float x)
            | none => .ok (.string text)

def schemaTag (name : String) : String := "tag:yaml.org,2002:" ++ name

def ofTag (tag text : String) : Except Fault Value :=
  let expect (value? : Option Value) : Except Fault Value :=
    match value? with
    | some value => .ok value
    | none => .error .tagMismatch
  if tag == schemaTag "bool" then expect ((bool? text).map .bool)
  else if tag == schemaTag "int" then
    match boundedInt? text.toList with
    | some n => n.map .int
    | none => .error .tagMismatch
  else if tag == schemaTag "float" then expect ((float? text.toList).map .float)
  else if tag == schemaTag "null" then expect (if isNull text then some .null else none)
  else .ok (.string text)

end Scalar

def localTag? (tag : Option String) : Option String :=
  match tag with
  | some name =>
      match name.toList with
      | ['!'] => some "!"
      | '!' :: rest => some (String.ofList rest)
      | _ => none
  | none => none

def Node.tag : Node → Option String
  | .scalar tag _ _ | .sequence tag _ | .mapping tag _ => tag
  | .alias _ _ => none

abbrev Resolving := StateT Nat (Except Fault)

namespace Document

/-- The value of a node whose local tag is already seen to. Collections go through
`inner`, which is absent at the greatest depth. -/
def bare (inner : Option (Node → Resolving Value)) : Node → Resolving Value
  | .scalar tag style text =>
      match style, tag, localTag? tag with
      | _, some tag, none => Scalar.ofTag tag text
      | .plain, _, _ => Scalar.plain text
      | .quoted, _, _ => return .string text
  | .sequence _ items =>
      match inner with
      | some resolve => return .sequence (← items.mapM resolve)
      | none => throw .tooDeep
  | .mapping _ entries =>
      match inner with
      | some resolve => return .mapping (← entries.foldlM (addEntry resolve) [])
      | none => throw .tooDeep
  | .alias _ _ => throw .unknownAlias
where
  addEntry (resolve : Node → Resolving Value) (known : List (Value × Value))
      (entry : Node × Node) : Resolving (List (Value × Value)) := do
    let key ← resolve entry.1
    if known.any (key.same ·.1) then throw .duplicateKey
    else return known ++ [(key, ← resolve entry.2)]

def withTag (inner : Option (Node → Resolving Value)) (node : Node) : Resolving Value := do
  match localTag? node.tag with
  | some tag => return .tagged tag (← bare inner node)
  | none => bare inner node

/-- The node that an alias refers to. No more aliases are followed than a hundred
for each part of the document. -/
def follow (document : Document) (node : Node) : Resolving Node := do
  match node with
  | .alias _ number =>
      let followed := (← get) + 1
      set followed
      if 100 * document.size < followed then throw .tooManyAliases
      match document.find? number with
      | some target => return target
      | none => throw .unknownAlias
  | _ => return node

/-- Collections may be nested so deep. -/
def resolve (document : Document) : (depth : Nat) → Node → Resolving Value
  | 0, node => do withTag none (← document.follow node)
  | depth + 1, node => do withTag (some (document.resolve depth)) (← document.follow node)

def value (document : Document) : Except Fault Value :=
  ((document.resolve 128 document.root).run 0).map (·.1)

end Document

def Value.ofText (text : String) : List (Except Fault Value) :=
  (Document.ofText text).map fun document => document.bind Document.value

end PowerRota.Yaml
