import LoginGateway.CommandLine.Basic
import LoginGateway.Settings.Environment
import LoginGateway.Text.Split

/-! The texts behind a refused command line: what the program is and takes, or what is
wrong with the arguments. -/

namespace LoginGateway.CommandLine

def programName : String := "sso-gateway"

def version : String := "0.1.0"

def versionText : String := programName ++ " " ++ version ++ "\n"

namespace Key

def purpose : Key → String
  | .config => "Path to configuration file (YAML or JSON)"
  | .port => "Port to listen on"
  | .bind => "Address to bind to"
  | .logLevel => "Log level (trace, debug, info, warn, error)"
  | .logFormat => "Log format (text, json)"

def placeholder : Key → String
  | .config => "CONFIG"
  | .port => "PORT"
  | .bind => "BIND"
  | .logLevel => "LOG_LEVEL"
  | .logFormat => "LOG_FORMAT"

def form (key : Key) : String := "--" ++ key.longName ++ " <" ++ key.placeholder ++ ">"

def description (environment : Environment) (key : Key) : String :=
  key.purpose ++ " [env: " ++ key.variableName ++ "=" ++ (environment.get? key.variableName).getD "" ++ "]"
    ++ (match key.fallback? with
      | some text => " [default: " ++ text ++ "]"
      | none => "")

end Key

namespace Topic

def about : Topic → String
  | .place none => "Single-sign-on gateway - host-routed reverse proxy behind an organization-restricted "
      ++ "OAuth2 login"
  | .place (some .serve) => "Start the gateway server (default)"
  | .place (some .check) => "Load and validate the configuration, then print the route table"
  | .help => "Print this message or the help of the given subcommand(s)"

def commandName : Command → String
  | .serve => "serve"
  | .check => "check"

def usage : Topic → String
  | .place none => "Usage: " ++ programName ++ " [OPTIONS] [COMMAND]"
  | .place (some command) => "Usage: " ++ programName ++ " " ++ commandName command ++ " [OPTIONS]"
  | .help => "Usage: " ++ programName ++ " help [COMMAND]"

end Topic

/-- Words in lines of at most `width` characters, as far as words allow it, where
`line` is begun. -/
def fillFrom (width : Nat) (line : String) : List String → List String
  | [] => [line]
  | word :: rest =>
    if line.length + 1 + word.length ≤ width then fillFrom width (line ++ " " ++ word) rest
    else line :: fillFrom width word rest

def fill (width : Nat) (text : String) : List String :=
  match (pieces ' ' text.toList).map String.ofList with
  | [] => []
  | word :: rest => fillFrom width word rest

def optionLines (short : Option Char) (form description : String) : List String :=
  let start := match short with
    | some letter => String.ofList ['-', letter] ++ ", "
    | none => "    "
  ("  " ++ start ++ form) :: (fill 90 description).map ("          " ++ ·)

def optionsOf (environment : Environment) (place : Place) : List String :=
  (keysAt place).flatMap (fun key => optionLines key.shortName? key.form (key.description environment))
    ++ optionLines (some 'h') "--help" "Print help"
    ++ (if place = none then optionLines (some 'V') "--version" "Print version" else [])

def commandLines : List String :=
  "Commands:" :: [("serve", Topic.place (some .serve)), ("check", .place (some .check)), ("help", .help)].map
    fun (word, topic) => "  " ++ word ++ String.ofList (List.replicate (7 - word.length) ' ') ++ topic.about

def helpLines (environment : Environment) (topic : Topic) : List String :=
  [topic.about, "", topic.usage, ""] ++ match topic with
    | .place none => commandLines ++ ["", "Options:"] ++ optionsOf environment none
    | .place place => "Options:" :: optionsOf environment place
    | .help => commandLines

def helpText (environment : Environment) (topic : Topic) : String :=
  String.join ((helpLines environment topic).map (· ++ "\n"))

def PortFault.message : PortFault → String
  | .number fault => fault.message
  | .range value => toString value ++ " is not in 0..=65535"

namespace Refusal

def problem : Refusal → String × Option Place
  | .unknownArgument place argument => ("unexpected argument '" ++ argument ++ "' found", some place)
  | .unknownCommand word => ("unrecognized subcommand '" ++ word ++ "'", some none)
  | .missingValue key => ("a value is required for '" ++ key.form ++ "' but none was supplied", none)
  | .unfitPort text fault =>
    ("invalid value '" ++ text ++ "' for '" ++ Key.port.form ++ "': " ++ fault.message, none)
  | .needlessValue place argument text =>
    ("unexpected value '" ++ text ++ "' for '" ++ argument ++ "' found; no more were expected", some place)
  | .repeated place key => ("the argument '" ++ key.form ++ "' cannot be used multiple times", some place)
  | .help _ | .version => ("", none)

def text (environment : Environment) (refusal : Refusal) : String :=
  match refusal with
  | .help topic => helpText environment topic
  | .version => versionText
  | _ =>
    let (problem, place) := refusal.problem
    "error: " ++ problem ++ "\n\n" ++ (match place with
      | some place => (Topic.place place).usage ++ "\n\n"
      | none => "") ++ "For more information, try '--help'.\n"

end Refusal

end LoginGateway.CommandLine
