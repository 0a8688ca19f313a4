import PowerRota.CommandLine.Parameter
import PowerRota.CommandLine.Word
import PowerRota.Config.Layers

/-! What a command line asks for.

A line has two levels: the program with its options, and the command with more of
them. Each level is read from left to right. The value of an option may be the next
word; it is judged when the next option comes or the level ends, so that a word that
means nothing is found before a value that is not accepted. An option is given at most
once at a level, and the one after the command counts. -/

set_option autoImplicit false

namespace PowerRota.CommandLine

inductive Command where
  | run
  | check
  deriving DecidableEq, Repr

namespace Command

def label : Command → String
  | .run => "run"
  | .check => "check"

def all : List Command := [.run, .check]

def ofLabel? (text : String) : Option Command := all.find? (·.label = text)

end Command

def helpWord : String := "help"

def isCommandWord (word : String) : Bool := word = helpWord || (Command.ofLabel? word).isSome

structure Arguments where
  config : Option String
  token : Option String
  keyFile : Option String
  dryRun : Bool
  logLevel : String
  logFormat : LogFormat
  command : Option Command
  deriving DecidableEq, Repr

/-- Why a command line asks for nothing that could be done. -/
inductive Refusal where
  | help
  | version
  | unknownArgument (word : String)
  | unknownCommand (word : String)
  | missingValue (parameter : Parameter)
  | invalidValue (parameter : Parameter) (value : String)
  | repeated (parameter : Parameter)
  | unwantedValue (parameter : Parameter)
  deriving DecidableEq, Repr

/-- The options found at a level. The last one is open as long as its value may
still come or is not judged yet. -/
structure Found where
  given : List (Parameter × String)
  opened : Option (Parameter × Option String)

namespace Found

def nothing : Found := ⟨[], none⟩

def value? (found : Found) (parameter : Parameter) : Option String :=
  found.given.lookup parameter

def add (found : Found) (parameter : Parameter) (value : String) : Except Refusal Found :=
  if (found.value? parameter).isSome then .error (.repeated parameter)
  else if parameter.accepts value then
    .ok { found with given := found.given ++ [(parameter, value)] }
  else .error (.invalidValue parameter value)

def settle (found : Found) : Except Refusal Found :=
  match found.opened with
  | none => .ok found
  | some (parameter, none) => .error (.missingValue parameter)
  | some (parameter, some value) => { found with opened := none }.add parameter value

def isWaiting (found : Found) : Bool :=
  match found.opened with
  | some (_, none) => true
  | _ => false

def supply (found : Found) (value : String) : Found :=
  { found with opened := found.opened.map fun (parameter, _) => (parameter, some value) }

def close (found : Found) (parameter : Parameter) (value : String) : Except Refusal Found := do
  let found ← found.settle
  match parameter with
  | .help => throw .help
  | .version => throw .version
  | parameter => found.add parameter value

def openFor (found : Found) (parameter : Parameter) : Except Refusal Found := do
  return { ← found.settle with opened := some (parameter, none) }

def takeLong (level : Level) (found : Found) (name : String) (value : Option String) :
    Except Refusal Found :=
  match Parameter.ofName? level name, value with
  | none, _ => .error (.unknownArgument ("--" ++ name))
  | some parameter, some value =>
      if parameter.takesValue then found.close parameter value
      else .error (.unwantedValue parameter)
  | some parameter, none =>
      if parameter.takesValue then found.openFor parameter else found.close parameter ""

/-- Letters that follow one dash. What comes after the letter of an option that takes a
value is the value. -/
def takeLetters (level : Level) (found : Found) : List Char → Except Refusal Found
  | [] => .ok found
  | letter :: rest => do
      match Parameter.ofLetter? level letter with
      | none => throw (.unknownArgument (String.ofList ['-', letter]))
      | some parameter =>
          if !parameter.takesValue then takeLetters level (← found.close parameter "") rest
          else if rest.isEmpty then found.openFor parameter
          else found.close parameter ((valueAfterSign rest).getD (String.ofList rest))

end Found

def strayWord (level : Level) (separated : Bool) (word : String) : Refusal :=
  match level with
  | .command => .unknownArgument word
  | .program =>
      if separated && isCommandWord word then .unknownArgument word else .unknownCommand word

def helpFor : List String → Refusal
  | [] => .help
  | [word] => if isCommandWord word then .help else .unknownCommand word
  | word :: next :: _ => .unknownCommand (if isCommandWord word then next else word)

/-- Read a level up to its end or its command; the words after the command are left. -/
def scan (level : Level) (found : Found) :
    List String → Except Refusal (Found × Option (Command × List String))
  | [] => .ok (found, none)
  | word :: rest =>
      match Word.ofText word with
      | .separator =>
          match rest with
          | [] => .ok (found, none)
          | stray :: _ => .error (strayWord level true stray)
      | .long name value => do scan level (← found.takeLong level name value) rest
      | .letters letters => do scan level (← found.takeLetters level letters) rest
      | .plain text =>
          if found.isWaiting then scan level (found.supply text) rest
          else if level = .command then .error (strayWord level false text)
          else if text = helpWord then .error (helpFor rest)
          else
            match Command.ofLabel? text with
            | some command => .ok (found, some (command, rest))
            | none => .error (strayWord level false text)

def fromEnvironment? (environment : Environment) (parameter : Parameter) : Option String :=
  parameter.environmentName?.bind fun name => environment.value? name

def Found.unaccepted? (found : Found) (environment : Environment) : Option (Parameter × String) :=
  Parameter.all.findSome? fun parameter => do
    guard (found.value? parameter).isNone
    let value ← fromEnvironment? environment parameter
    guard !parameter.accepts value
    return (parameter, value)

def Found.finish (found : Found) (environment : Environment) : Except Refusal Found := do
  let found ← found.settle
  match found.unaccepted? environment with
  | some (parameter, value) => throw (.invalidValue parameter value)
  | none => return found

/-- Put the levels together: the command's options, then the program's, then the
variables. -/
def Arguments.ofLevels (environment : Environment) (program inner : Found)
    (command : Option Command) : Arguments :=
  let value? := fun parameter =>
    (inner.value? parameter).or
      ((program.value? parameter).or (fromEnvironment? environment parameter))
  { config := value? .config
    token := value? .token
    keyFile := value? .keyFile
    dryRun := (value? .dryRun).isSome
    logLevel := (value? .logLevel).getD "info"
    logFormat := ((value? .logFormat).bind LogFormat.ofLabel?).getD .text
    command }

def Arguments.read (environment : Environment) (words : List String) :
    Except Refusal Arguments := do
  match ← scan .program .nothing words with
  | (program, none) =>
      return .ofLevels environment (← program.finish environment) .nothing none
  | (program, some (command, rest)) =>
      let (inner, _) ← scan .command .nothing rest
      let inner ← inner.finish environment
      return .ofLevels environment (← program.finish environment) inner (some command)

end PowerRota.CommandLine
