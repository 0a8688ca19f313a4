/-! The words of a command line, by their form.

A word that starts with one dash holds letters of options, one that starts with two
holds the name of an option. Two dashes alone end the options; a dash alone is a word
like any other. -/

set_option autoImplicit false

namespace PowerRota.CommandLine

inductive Word where
  | plain (text : String)
  | separator
  | long (name : String) (value : Option String)
  | letters (letters : List Char)
  deriving DecidableEq, Repr

def valueAfterSign : List Char → Option String
  | '=' :: value => some (String.ofList value)
  | _ => none

def Word.ofText (text : String) : Word :=
  match text.toList with
  | ['-', '-'] => .separator
  | '-' :: '-' :: rest =>
      .long (String.ofList (rest.takeWhile (· ≠ '='))) (valueAfterSign (rest.dropWhile (· ≠ '=')))
  | '-' :: letter :: rest => .letters (letter :: rest)
  | _ => .plain text

end PowerRota.CommandLine
