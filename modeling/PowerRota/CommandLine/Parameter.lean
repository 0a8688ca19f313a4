/-! What can be set on the command line. Options may stand before or after the
command; only the program itself has a version. -/

set_option autoImplicit false

namespace PowerRota.CommandLine

inductive LogFormat where
  | text
  | json
  deriving DecidableEq, Repr

namespace LogFormat

def label : LogFormat → String
  | .text => "text"
  | .json => "json"

def all : List LogFormat := [.text, .json]

def ofLabel? (text : String) : Option LogFormat := all.find? (·.label = text)

theorem ofLabel?_label (format : LogFormat) : ofLabel? format.label = some format := by
  cases format <;> decide

end LogFormat

/-- The part of the command line that an option stands in. -/
inductive Level where
  | program
  | command
  deriving DecidableEq, Repr

inductive Parameter where
  | config
  | token
  | keyFile
  | dryRun
  | logLevel
  | logFormat
  | help
  | version
  deriving DecidableEq, Repr

namespace Parameter

def name : Parameter → String
  | .config => "config"
  | .token => "token"
  | .keyFile => "sa-key"
  | .dryRun => "dry-run"
  | .logLevel => "log-level"
  | .logFormat => "log-format"
  | .help => "help"
  | .version => "version"

def letter? : Parameter → Option Char
  | .config => some 'c'
  | .token => some 't'
  | .dryRun => some 'n'
  | .help => some 'h'
  | .version => some 'V'
  | .keyFile | .logLevel | .logFormat => none

def placeholder? : Parameter → Option String
  | .config | .keyFile => some "FILE"
  | .token => some "TOKEN"
  | .logLevel => some "LEVEL"
  | .logFormat => some "FORMAT"
  | .dryRun | .help | .version => none

def takesValue (parameter : Parameter) : Bool := parameter.placeholder?.isSome

/-- The variable that is asked where the command line sets nothing. -/
def environmentName? : Parameter → Option String
  | .token => some "YC_TOKEN"
  | .keyFile => some "YC_SERVICE_ACCOUNT_KEY_FILE"
  | _ => none

def accepts : Parameter → String → Bool
  | .config, value | .keyFile, value => value ≠ ""
  | .logFormat, value => (LogFormat.ofLabel? value).isSome
  | _, _ => true

def all : List Parameter :=
  [.config, .token, .keyFile, .dryRun, .logLevel, .logFormat, .help, .version]

def standsAt (parameter : Parameter) (level : Level) : Bool :=
  parameter ≠ .version || level = .program

def ofName? (level : Level) (name : String) : Option Parameter :=
  all.find? fun parameter => parameter.standsAt level && parameter.name = name

def ofLetter? (level : Level) (letter : Char) : Option Parameter :=
  all.find? fun parameter => parameter.standsAt level && parameter.letter? = some letter

theorem ofName?_name (parameter : Parameter) :
    ofName? .program parameter.name = some parameter := by
  cases parameter <;> decide

end Parameter

end PowerRota.CommandLine
