import LoginGateway.Settings.Environment

/-! What an operator can set, and the values it has where nothing is set. -/

namespace LoginGateway

/-- A span of time, counted in milliseconds. -/
structure Duration where
  milliseconds : Nat
deriving DecidableEq, Repr

namespace Duration

def ofSeconds (seconds : Nat) : Duration := ⟨seconds * 1000⟩

def seconds (duration : Duration) : Nat := duration.milliseconds / 1000

/-- What remains beyond the whole seconds. -/
def nanoseconds (duration : Duration) : Nat := duration.milliseconds % 1000 * 1000000

end Duration

structure ServerSettings where
  bind : String
  port : UInt16
  scheme : String
  connectTimeout : Duration
deriving DecidableEq, Repr

structure OAuthSettings where
  clientId : String
  clientSecret : String
  domain : String
  authorizationUrl : String
  tokenUrl : String
  userinfoUrl : String
  scopes : List String
deriving DecidableEq, Repr

structure RouteSettings where
  source : String
  backend : String
deriving DecidableEq, Repr

structure Settings where
  envFiles : List String
  host : String
  server : ServerSettings
  oauth : OAuthSettings
  routes : List RouteSettings
  cacheCapacity : Nat
deriving DecidableEq, Repr

def ServerSettings.default : ServerSettings := ⟨"0.0.0.0", 80, "http", .ofSeconds 10⟩

def OAuthSettings.default : OAuthSettings where
  clientId := ""
  clientSecret := ""
  domain := ""
  authorizationUrl := "https://accounts.google.com/o/oauth2/auth"
  tokenUrl := "https://accounts.google.com/o/oauth2/token"
  userinfoUrl := "https://www.googleapis.com/oauth2/v1/userinfo?alt=json"
  scopes := ["https://www.googleapis.com/auth/userinfo.profile",
    "https://www.googleapis.com/auth/userinfo.email"]

def Settings.default : Settings := ⟨[], "", .default, .default, [], 50⟩

namespace OAuthSettings

def domainHint (oauth : OAuthSettings) : String :=
  String.ofList (oauth.domain.toList.dropWhile (· = '@'))

/-- What every accepted address ends in. -/
def emailSuffix (oauth : OAuthSettings) : String := "@" ++ oauth.domainHint

def resolvedId (oauth : OAuthSettings) (environment : Environment) : String :=
  environment.resolve oauth.clientId

def resolvedSecret (oauth : OAuthSettings) (environment : Environment) : String :=
  environment.resolve oauth.clientSecret

end OAuthSettings

end LoginGateway
