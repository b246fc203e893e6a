import LoginGateway.Settings.Reader

/-! Settings as a document. -/

namespace LoginGateway.Settings

def textDocument (text : String) : Document := .scalar .given (.text text)

def naturalDocument (value : Nat) : Document := .scalar .given (.natural value)

def textsDocument (texts : List String) : Document := .list .given (texts.map textDocument)

def routeDocument (route : RouteSettings) : Document :=
  .map .given [("from", textDocument route.source), ("to", textDocument route.backend)]

def oauthDocument (oauth : OAuthSettings) : Document :=
  .map .given [("authorization_url", textDocument oauth.authorizationUrl),
    ("client_id", textDocument oauth.clientId), ("client_secret", textDocument oauth.clientSecret),
    ("domain", textDocument oauth.domain), ("scopes", textsDocument oauth.scopes),
    ("token_url", textDocument oauth.tokenUrl), ("userinfo_url", textDocument oauth.userinfoUrl)]

def serverDocument (server : ServerSettings) : Document :=
  .map .given [("bind", textDocument server.bind),
    ("connect_timeout", textDocument server.connectTimeout.text),
    ("port", naturalDocument server.port.toNat), ("scheme", textDocument server.scheme)]

def toDocument (settings : Settings) : Document :=
  .map .given [("env_files", textsDocument settings.envFiles), ("host", textDocument settings.host),
    ("oauth", oauthDocument settings.oauth),
    ("routes", .list .given (settings.routes.map routeDocument)),
    ("server", serverDocument settings.server),
    ("session", .map .given [("cache_capacity", naturalDocument settings.cacheCapacity)])]

end LoginGateway.Settings
