import LoginGateway.Proofs.Login
import LoginGateway.Proofs.RouteHosts
import LoginGateway.Proofs.SessionCookies

/-! Where the hub sends a visitor with its token. The state that comes along may be any
URL; of its host and port nothing goes on but the name of the route that they lead to,
and of its text nothing but the path and query, inside a parameter. -/

namespace LoginGateway

theorem Response.found_of_valid {location : String}
    (valid : Headers.isValue (octets location) = true) :
    found location = .ok ⟨302, [("location", octets location)], .fixed []⟩ := by
  rw [found, valid]
  rfl

theorem Login.unique {gateway : Gateway} {outside : Outside} {query : Option String}
    (first second : Login gateway outside query) : first = second := by
  obtain ⟨code, state, back, route, accessToken, identity, hasCode, hasState, stateRead, routed,
    exchanged, fetched, _⟩ := first
  obtain ⟨_, _, _, _, _, _, hasCode', hasState', stateRead', routed', exchanged', fetched', _⟩ :=
    second
  cases hasCode.symm.trans hasCode'
  cases hasState.symm.trans hasState'
  cases stateRead.symm.trans stateRead'
  cases routed.symm.trans routed'
  cases exchanged.symm.trans exchanged'
  cases fetched.symm.trans fetched'
  rfl

namespace Gateway

variable {gateway : Gateway} {outside : Outside} {query : Option String} {cache : Cache}

def sentOn (gateway : Gateway) (location token : String) : Response where
  status := 302
  headers := [("location", octets location),
    ("set-cookie", octets (Session.cookie token gateway.secureCookies).field)]
  body := .fixed []

theorem handOn_of_canonical {route : Route} (web : Url.IsWeb gateway.scheme.toList)
    (canonical : IsCanonicalHost gateway.scheme route.host) (back : Url) (token : String) :
    ∃ leaf, gateway.handOn route back token =
        .ok (gateway.sentOn (String.ofList leaf.text) token) ∧
      Url.parse leaf.text = .ok leaf ∧
      gateway.IsBridge route (String.ofList back.pathAndQuery) token leaf := by
  obtain ⟨leaf, made, read, printable, bridge⟩ :=
    bridgeUrl_spec web canonical (String.ofList back.pathAndQuery) token
  have valid : Headers.isValue (octets (String.ofList leaf.text)) = true := by
    rw [octets, String.toList_ofList]
    exact Headers.isValue_of_printable printable
  refine ⟨leaf, ?_, read, bridge⟩
  simp only [handOn, made, bind, Except.bind, Response.found_of_valid valid]
  rfl

theorem route_of_stateRoute? {back : Url} {route : Route}
    (routed : gateway.stateRoute? back = some route) :
    route ∈ gateway.routes.routes ∧ ∃ host, back.hostAndPort? = some host ∧
      gateway.routes.find? (canonicalHost (String.ofList host)) = some route := by
  obtain ⟨host, named, found⟩ := Option.bind_eq_some_iff.mp routed
  exact ⟨(RouteTable.find?_spec found).1, host, named, found⟩

/-- With a login and a host that is written as URLs write it, the hub hands on. -/
theorem callback_of_canonical (login : Login gateway outside query)
    (web : Url.IsWeb gateway.scheme.toList)
    (canonical : IsCanonicalHost gateway.scheme login.route.host) (cache : Cache) :
    ∃ leaf, (gateway.callback outside query cache).reply =
        .value (gateway.sentOn (String.ofList leaf.text) login.token) ∧
      Url.parse leaf.text = .ok leaf ∧
      gateway.IsBridge login.route (String.ofList login.back.pathAndQuery) login.token leaf := by
  obtain ⟨leaf, made, read, bridge⟩ := handOn_of_canonical web canonical login.back login.token
  refine ⟨leaf, ?_, read, bridge⟩
  rw [callback_of_login login, Login.handOn, made]
  rfl

/-- Whatever state comes along, a visitor whom the hub hands on goes to the bridge of
the route that its host and port lead to, over the scheme that is set, without name,
password or fragment. The bridge gets two parameters: the path and query of the state,
and the token of the profile, which is also the cookie that the hub sets. -/
theorem handover (web : Url.IsWeb gateway.scheme.toList)
    (canonical : ∀ route ∈ gateway.routes.routes, IsCanonicalHost gateway.scheme route.host)
    {response : Response} (ended : (gateway.callback outside query cache).reply = .value response) :
    ∃ (login : Login gateway outside query) (location cookie : String) (leaf : Url),
      response.status = 302 ∧
      response.headers = [("location", octets location), ("set-cookie", octets cookie)] ∧
      Url.parse location.toList = .ok leaf ∧
      (∃ host, login.back.hostAndPort? = some host ∧
        gateway.routes.find? (canonicalHost (String.ofList host)) = some login.route) ∧
      gateway.IsBridge login.route (String.ofList login.back.pathAndQuery)
        (Token.encode login.identity gateway.key) leaf ∧
      Cookie.read? (Cookie.kept cookie) =
        some (Session.cookieName, Token.encode login.identity gateway.key) := by
  obtain ⟨login, _, _⟩ := login_of_callback ended
  obtain ⟨inside, found⟩ := route_of_stateRoute? login.routed
  obtain ⟨leaf, answered, read, bridge⟩ :=
    callback_of_canonical login web (canonical login.route inside) cache
  cases ended.symm.trans answered
  exact ⟨login, String.ofList leaf.text, _, leaf, rfl, rfl,
    by rw [String.toList_ofList]; exact read, found, bridge,
    Session.read?_cookie login.token gateway.secureCookies⟩

end Gateway

namespace OneRoute

def strayQuery : Option String :=
  some "code=1&state=http%3A%2F%2Fme%3Apw%40APP.org.com%3A443%2Fa+b%3Fx%3D1%26y%3D%C3%A9%23top"

def strayLogin : Login gateway outside strayQuery where
  code := "1"
  state := "http://me:pw@APP.org.com:443/a b?x=1&y=é#top"
  back := { backend with
    username := "me".toList
    password := "pw".toList
    host := some (.domain "app.org.com".toList)
    port := some 443
    path := .segments ["a%20b".toList]
    query := some "x=1&y=%C3%A9".toList
    fragment := some "top".toList }
  route := ⟨"app.org.com", backend⟩
  accessToken := "1"
  identity := alice
  hasCode := by decide +kernel
  hasState := by decide +kernel
  stateRead := by decide +kernel
  routed := by decide
  exchanged := aliceLogin.exchanged
  fetched := aliceLogin.fetched
  accepted := aliceLogin.accepted

theorem canonical_routes :
    ∀ route ∈ gateway.routes.routes, IsCanonicalHost gateway.scheme route.host := by
  decide +kernel

theorem handover_of_stray :
    Url.IsWeb gateway.scheme.toList ∧
      (∀ route ∈ gateway.routes.routes, IsCanonicalHost gateway.scheme route.host) ∧
      ∃ response, (gateway.callback outside strayQuery (.empty 0)).reply = .value response ∧
        ∃ location cookie leaf, response.status = 302 ∧
          response.headers = [("location", octets location), ("set-cookie", octets cookie)] ∧
          Url.parse location.toList = .ok leaf ∧
          gateway.IsBridge ⟨"app.org.com", backend⟩ "/a%20b?x=1&y=%C3%A9" token leaf ∧
          Cookie.read? (Cookie.kept cookie) = some ("sso_session", token) := by
  have web : Url.IsWeb gateway.scheme.toList := .inl rfl
  have canonical := canonical_routes
  obtain ⟨_, answered, _⟩ := Gateway.callback_of_canonical strayLogin web
    (canonical _ (List.mem_singleton_self _)) (.empty 0)
  obtain ⟨login, location, cookie, leaf, status, fields, read, _, bridge, kept⟩ :=
    Gateway.handover web canonical answered
  have same := Login.unique login strayLogin
  have resume : String.ofList strayLogin.back.pathAndQuery = "/a%20b?x=1&y=%C3%A9" := by
    decide
  rw [same, resume, strayLogin, encode_alice] at bridge
  rw [same, strayLogin, encode_alice] at kept
  exact ⟨web, canonical, _, answered, location, cookie, leaf, status, fields, read, bridge, kept⟩

end OneRoute

end LoginGateway
