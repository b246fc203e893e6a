import LoginGateway.Route.Basic

/-! What a request is about, decided by its path alone. -/

namespace LoginGateway

/-- What a request to a public host with a backend is about. -/
inductive Errand where
  | bridge
  | logout
  | relay
deriving DecidableEq, Repr

/-- What a request to any other host is about. -/
inductive HubErrand where
  | callback
  | logout
  | profile
  | unknown
deriving DecidableEq, Repr

def isAuthPath (path : String) : Bool := authPath.toList.isPrefixOf path.toList

def Errand.ofPath (path : String) : Errand :=
  if path = logoutPath then .logout else if isAuthPath path then .bridge else .relay

def HubErrand.ofPath (path : String) : HubErrand :=
  if path = logoutPath then .logout
  else if path = "/" then .profile
  else if isAuthPath path then .callback
  else .unknown

end LoginGateway
