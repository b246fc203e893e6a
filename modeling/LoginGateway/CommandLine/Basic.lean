import LoginGateway.Number.Decimal

/-! What can be said on a command line: options with a value, and what is to be done.
Options that are not given there are taken from variables. -/

namespace LoginGateway

inductive Command where
  | serve
  | check
deriving DecidableEq, Repr

structure CommandLine where
  config : String
  port : Option UInt16
  bind : Option String
  logLevel : String
  logFormat : Option String
  command : Option Command
deriving DecidableEq, Repr

namespace CommandLine

inductive Key where
  | config
  | port
  | bind
  | logLevel
  | logFormat
deriving DecidableEq, Repr

namespace Key

def all : List Key := [.config, .port, .bind, .logLevel, .logFormat]

def isCommon : Key → Bool
  | .port | .bind => false
  | _ => true

def longName : Key → String
  | .config => "config"
  | .port => "port"
  | .bind => "bind"
  | .logLevel => "log-level"
  | .logFormat => "log-format"

def shortName? : Key → Option Char
  | .config => some 'c'
  | .port => some 'p'
  | _ => none

def variableName : Key → String
  | .config => "SSO_GATEWAY_CONFIG"
  | .port => "SSO_GATEWAY_PORT"
  | .bind => "SSO_GATEWAY_BIND"
  | .logLevel => "SSO_GATEWAY_LOG_LEVEL"
  | .logFormat => "SSO_GATEWAY_LOG_FORMAT"

def fallback? : Key → Option String
  | .config => some "sso-gateway.yaml"
  | .logLevel => some "info"
  | _ => none

end Key

abbrev Place := Option Command

def keysAt (place : Place) : List Key :=
  if place = none then Key.all else Key.all.filter Key.isCommon

inductive PortFault where
  | number (fault : NumberFault)
  | range (value : Int)
deriving DecidableEq, Repr

inductive Topic where
  | place (place : Place)
  | help
deriving DecidableEq, Repr

/-- Why nothing is done: a text was asked for, or the arguments do not fit. -/
inductive Refusal where
  | help (topic : Topic)
  | version
  | unknownArgument (place : Place) (argument : String)
  | unknownCommand (word : String)
  | missingValue (key : Key)
  | unfitPort (text : String) (fault : PortFault)
  | needlessValue (place : Place) (argument text : String)
  | repeated (place : Place) (key : Key)
deriving DecidableEq, Repr

/-- Asking for a text is no mistake. -/
def Refusal.exitCode : Refusal → Nat
  | .help _ | .version => 0
  | _ => 2

def readPort (text : String) : Except PortFault UInt16 :=
  match signed64 text.toList with
  | .ok value =>
    if 0 ≤ value ∧ value < UInt16.size then .ok value.toNat.toUInt16 else .error (.range value)
  | .error fault => .error (.number fault)

def accept (key : Key) (text : String) : Except Refusal Unit :=
  match key with
  | .config => if text = "" then .error (.missingValue .config) else .ok ()
  | .port => ((readPort text).mapError (.unfitPort text)).map fun _ => ()
  | _ => .ok ()

end CommandLine

end LoginGateway
