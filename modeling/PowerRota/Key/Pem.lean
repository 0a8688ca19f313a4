import PowerRota.Key.Base64
import PowerRota.Text.Blank

/-! Octets in armour: a labelled block of text between two marks.

What stands before the block is passed over, and so are the headers, which an empty
line parts from the octets. -/

set_option autoImplicit false

namespace PowerRota.Key

open Text

structure Pem where
  label : String
  content : List UInt8
  deriving DecidableEq, Repr

namespace Pem

def beginMark : List Char := "-----BEGIN ".toList

def endMark : List Char := "-----END ".toList

def dashes : List Char := "-----".toList

def cut? (mark : List Char) : List Char → Option (List Char × List Char)
  | [] => if mark.isEmpty then some ([], []) else none
  | c :: rest =>
      if mark.isPrefixOf (c :: rest) then some ([], (c :: rest).drop mark.length)
      else (cut? mark rest).map fun (before, after) => (c :: before, after)

def headers (body : List Char) : List Char × List Char :=
  match cut? ['\n', '\n'] body with
  | some parts => parts
  | none => (cut? ['\r', '\n', '\r', '\n'] body).getD ([], body)

def isHeader (line : List Char) : Bool := (cut? [':', ' '] line).isSome

def headerLines (text : List Char) : List (List Char) :=
  if text.isEmpty then [] else split '\n' text

def read? (text : List Char) : Option Pem := do
  let (_, rest) ← cut? beginMark text
  let (label, rest) ← cut? dashes rest
  let (body, rest) ← cut? endMark (rest.dropWhile isBlank)
  let (last, _) ← cut? dashes rest
  if label.isEmpty || label ≠ last then none
  else
    let (headers, body) := headers body
    let content ← Base64.decode? (body.filter fun c => !isBlank c)
    if (headerLines headers).all isHeader then some ⟨String.ofList label, content⟩ else none

end Pem

end PowerRota.Key
