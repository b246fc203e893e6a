import LoginGateway.Fault
import LoginGateway.Settings.Basic

/-! What settings need so that the gateway can run. -/

namespace LoginGateway.Settings

/-- The first thing that is missing or cannot be used. -/
def validate (settings : Settings) (environment : Environment) : Except Fault Unit :=
  if trim settings.host = "" then .error (.settings "\x60host\x60 (hub hostname) is required")
  else if settings.oauth.resolvedId environment = "" then
    .error (.settings "\x60oauth.client_id\x60 is required")
  else if settings.oauth.domainHint = "" then .error (.settings "\x60oauth.domain\x60 is required")
  else if settings.routes = [] then .error (.settings "at least one route is required")
  else if settings.server.scheme ≠ "http" ∧ settings.server.scheme ≠ "https" then
    .error (.settings ("unsupported scheme: " ++ settings.server.scheme))
  else .ok ()

end LoginGateway.Settings
