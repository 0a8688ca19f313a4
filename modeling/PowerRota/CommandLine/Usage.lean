import PowerRota.CommandLine.Arguments
import PowerRota.Web.Response

/-! How the program is used, and what is said to a command line that is refused. -/

set_option autoImplicit false

namespace PowerRota.CommandLine

def Command.summary : Command → String
  | .run => "Start the scheduler (default)"
  | .check => "Validate configuration and schedules, then list jobs"

def Parameter.summary : Parameter → String
  | .config => "Configuration file (YAML)"
  | .token => "OAuth token"
  | .keyFile => "Service account authorized key file"
  | .dryRun => "Log operations instead of performing them"
  | .logLevel => "Log level [default: info]"
  | .logFormat => "Log output format [default: text] [possible values: text, json]"
  | .help => "Print help"
  | .version => "Print version"

def filled (width : Nat) (text : String) : String :=
  text ++ String.ofList (List.replicate (width - text.length) ' ')

def Parameter.usage (parameter : Parameter) : String :=
  let letter := match parameter.letter? with
    | some letter => String.ofList ['-', letter, ',', ' ']
    | none => "    "
  let value := match parameter.placeholder? with
    | some placeholder => " <" ++ placeholder ++ ">"
    | none => ""
  letter ++ "--" ++ parameter.name ++ value

def usage : String :=
  let commands := Command.all.map fun command => "  " ++ filled 7 command.label ++ command.summary
  let parameters := Parameter.all.map fun parameter =>
    "  " ++ filled 28 parameter.usage ++ parameter.summary
  "\n".intercalate
    (["Scheduled start/stop of Yandex Cloud resources with drift reconciliation", "",
      "Usage: " ++ Web.name ++ " [OPTIONS] [COMMAND]", "", "Commands:"] ++ commands ++
      ["  " ++ filled 7 helpWord ++ "Print this message", "", "Options:"] ++ parameters)

def Refusal.message : Refusal → String
  | .help => usage
  | .version => Web.name ++ " " ++ Web.version
  | .unknownArgument word => "error: unexpected argument '" ++ word ++ "' found"
  | .unknownCommand word => "error: unrecognized subcommand '" ++ word ++ "'"
  | .missingValue parameter => "error: a value is required for '" ++ parameter.usage ++ "'"
  | .invalidValue parameter value =>
      "error: invalid value '" ++ value ++ "' for '" ++ parameter.usage ++ "'"
  | .repeated parameter =>
      "error: the argument '" ++ parameter.usage ++ "' cannot be used multiple times"
  | .unwantedValue parameter => "error: unexpected value for '" ++ parameter.usage ++ "'"

def Refusal.isWanted : Refusal → Bool
  | .help | .version => true
  | _ => false

end PowerRota.CommandLine
