import LoginGateway.Route.Basic
import LoginGateway.Settings.Basic
import LoginGateway.Url.Query

/-! The identity provider as the gateway knows it, and the URL to which visitors
are sent for a login. -/

namespace LoginGateway

structure Provider where
  clientId : String
  clientSecret : String
  authorizationUrl : Url
  tokenUrl : String
  userinfoUrl : String
  redirectUri : String
  scopes : List String
deriving DecidableEq, Repr

namespace Provider

def redirectUriOf (settings : Settings) : String :=
  settings.server.scheme ++ "://" ++ publicHost settings.host settings.server.port ++ authPath

def ofSettings (settings : Settings) (environment : Environment) : Except Fault Provider :=
  let oauth := settings.oauth
  match Url.parse oauth.authorizationUrl.toList with
  | .error fault => .error (.settings
      ("Invalid authorization_url '" ++ oauth.authorizationUrl ++ "': " ++ fault.message))
  | .ok authorizationUrl => .ok {
      clientId := oauth.resolvedId environment
      clientSecret := oauth.resolvedSecret environment
      authorizationUrl
      tokenUrl := oauth.tokenUrl
      userinfoUrl := oauth.userinfoUrl
      redirectUri := redirectUriOf settings
      scopes := oauth.scopes }

/-- What a visitor tells the provider. The domain is only told if there is one. -/
def authorizationPairs (provider : Provider) (state domainHint : String) : List (String × String) :=
  [("response_type", "code"), ("client_id", provider.clientId),
    ("redirect_uri", provider.redirectUri), ("scope", " ".intercalate provider.scopes),
    ("state", state)] ++ if domainHint = "" then [] else [("hd", domainHint)]

/-- Where a visitor logs in. The provider hands `state` back unchanged. -/
def loginUrl (provider : Provider) (state domainHint : String) : Url :=
  provider.authorizationUrl.appendPairs (provider.authorizationPairs state domainHint)

end Provider

end LoginGateway
