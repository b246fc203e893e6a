import LoginGateway.Proofs.LoginHandshake

/-! When a callback ends in a login, and what it leaves behind. The provider is asked only
for a query that names a route, and once a profile is stored nothing can fail any more. -/

namespace LoginGateway

theorem Identity.emailEndsWith_iff {identity : Identity} {suffix : String} (filled : suffix ≠ "") :
    identity.emailEndsWith suffix = true ↔ suffix.toList <:+ identity.email.toList := by
  constructor
  · exact suffix_of_emailEndsWith
  · intro ending
    rw [emailEndsWith, Bool.and_eq_true, decide_eq_true_eq]
    refine ⟨?_, List.isSuffixOf_iff_suffix.mpr ending⟩
    intro empty
    exact filled (String.toList_inj.mp empty)

namespace Gateway

variable {gateway : Gateway} {outside : Outside} {query : Option String}

theorem emailSuffix_ofSettings {settings : Settings} {key : SigningKey} {provider : Provider}
    (made : Gateway.ofSettings settings key provider = .ok gateway) :
    gateway.emailSuffix = settings.oauth.emailSuffix := by
  obtain ⟨routes, _, rfl⟩ := eq_of_ofSettings made
  rfl

/-- The provider takes a code and knows somebody whose address has the right ending. -/
structure Vouches (gateway : Gateway) (outside : Outside) (code : String) (identity : Identity) :
    Prop where
  profile : ∃ accessToken, outside.exchange code = .value accessToken ∧
    outside.fetchProfile accessToken = .value identity
  ending : gateway.emailSuffix.toList <:+ identity.email.toList

theorem asksFor_of_login (login : Login gateway outside query) :
    gateway.AsksFor query login.code login.route :=
  asksFor_of_routed login.hasCode login.hasState login.stateRead login.routed

theorem vouches_of_login (login : Login gateway outside query) :
    gateway.Vouches outside login.code login.identity where
  profile := ⟨login.accessToken, login.exchanged, login.fetched⟩
  ending := Identity.suffix_of_emailEndsWith login.accepted

theorem exists_login (filled : gateway.emailSuffix ≠ "") {code : String} {route : Route}
    {identity : Identity} (asks : gateway.AsksFor query code route)
    (vouches : gateway.Vouches outside code identity) :
    ∃ login : Login gateway outside query, login.route = route ∧ login.identity = identity := by
  obtain ⟨state, back, host, found, named, stateRead, written, leads⟩ := asks.hasState
  obtain ⟨accessToken, exchanged, fetched⟩ := vouches.profile
  refine ⟨{ code, state, back, route, accessToken, identity, stateRead, exchanged, fetched
            hasCode := parameter?_eq_some_iff.mpr ⟨asks.hasCode, asks.filled⟩
            hasState := parameter?_eq_some_iff.mpr ⟨found, named⟩
            routed := ?_
            accepted := (Identity.emailEndsWith_iff filled).mpr vouches.ending }, rfl, rfl⟩
  rw [stateRoute?, written]
  exact leads

theorem callback_of_vouched (web : Url.IsWeb gateway.scheme.toList)
    (canonical : ∀ route ∈ gateway.routes.routes, IsCanonicalHost gateway.scheme route.host)
    (filled : gateway.emailSuffix ≠ "") {code : String} {route : Route} {identity : Identity}
    (asks : gateway.AsksFor query code route) (vouches : gateway.Vouches outside code identity)
    (cache : Cache) :
    (∃ response, (gateway.callback outside query cache).reply = .value response ∧
      response.status = 302) ∧
    (gateway.callback outside query cache).cache =
      cache.put (Token.encode identity gateway.key) identity := by
  obtain ⟨login, rfl, rfl⟩ := exists_login filled asks vouches
  obtain ⟨inside, _⟩ := route_of_stateRoute? login.routed
  obtain ⟨leaf, answered, _⟩ := callback_of_canonical login web (canonical login.route inside) cache
  refine ⟨⟨_, answered, rfl⟩, ?_⟩
  rw [callback_of_login login]
  rfl

theorem callback_of_unvouched (unvouched : ∀ code route identity,
      gateway.AsksFor query code route → ¬ gateway.Vouches outside code identity) (cache : Cache) :
    (gateway.callback outside query cache).cache = cache ∧
    ((∃ reason, (gateway.callback outside query cache).reply = .failed (.denied reason)) ∨
      (gateway.callback outside query cache).reply = .crashed ∧ gateway.Breaks outside query) := by
  have comes := gateway.comes_of_callback outside query cache
  generalize gateway.callback outside query cache = outcome at comes ⊢
  cases comes with
  | refused absent reason => exact ⟨rfl, .inl ⟨reason, rfl⟩⟩
  | crashed absent breaks => exact ⟨rfl, .inr ⟨rfl, breaks⟩⟩
  | accepted login =>
    exact absurd (vouches_of_login login) (unvouched _ _ _ (asksFor_of_login login))

theorem asksFor_of_exchange {cache : Cache} {code : String}
    (inside : .exchange code ∈ (gateway.callback outside query cache).calls) :
    ∃ route, gateway.AsksFor query code route := by
  have comes := gateway.comes_of_callback outside query cache
  generalize gateway.callback outside query cache = outcome at comes inside
  cases comes with
  | refused absent reason asked => exact asked _ inside
  | crashed absent breaks asked => exact asked _ inside
  | accepted login =>
    have same : code = login.code := by simpa [Login.calls] using inside
    exact ⟨login.route, same ▸ asksFor_of_login login⟩

/-- A callback hands the visitor on exactly if the query asks for a route and the provider
vouches for somebody, and then it stores the profile under its token and nothing else. In
every other case it stores nothing and refuses the visitor, unless the provider breaks off.
A code is exchanged only for a query that asks for a route. -/
theorem callback_decides {settings : Settings} {environment : Environment} {key : SigningKey}
    {provider : Provider} (valid : settings.validate environment = .ok ())
    (made : Gateway.ofSettings settings key provider = .ok gateway)
    (canonical : ∀ route ∈ gateway.routes.routes, IsCanonicalHost gateway.scheme route.host)
    (outside : Outside) (query : Option String) (cache : Cache) :
    let outcome := gateway.callback outside query cache
    ((∃ response, outcome.reply = .value response ∧ response.status = 302) ↔
      ∃ code route identity, gateway.AsksFor query code route ∧
        gateway.Vouches outside code identity) ∧
    (∀ code route identity, gateway.AsksFor query code route →
      gateway.Vouches outside code identity →
      outcome.cache.get? (Token.encode identity gateway.key) = some identity ∧
      ∀ other, other ≠ Token.encode identity gateway.key →
        outcome.cache.get? other = cache.get? other) ∧
    ((∀ code route identity, gateway.AsksFor query code route →
        ¬ gateway.Vouches outside code identity) →
      outcome.cache = cache ∧ ((∃ reason, outcome.reply = .failed (.denied reason)) ∨
        outcome.reply = .crashed ∧ gateway.Breaks outside query)) ∧
    ∀ code, .exchange code ∈ outcome.calls → ∃ route, gateway.AsksFor query code route := by
  intro outcome
  have web : Url.IsWeb gateway.scheme.toList := by
    rw [(names_ofSettings made).1]
    exact Settings.isWeb_of_validate valid
  have filled : gateway.emailSuffix ≠ "" := by
    rw [emailSuffix_ofSettings made, OAuthSettings.emailSuffix]
    simp
  refine ⟨⟨?_, ?_⟩, ?_, fun unvouched => callback_of_unvouched unvouched cache, ?_⟩
  · rintro ⟨response, ended, _⟩
    obtain ⟨login, _⟩ := login_of_callback ended
    exact ⟨_, _, _, asksFor_of_login login, vouches_of_login login⟩
  · rintro ⟨code, route, identity, asks, vouches⟩
    exact (callback_of_vouched web canonical filled asks vouches cache).1
  · intro code route identity asks vouches
    have stored := (callback_of_vouched web canonical filled asks vouches cache).2
    change (gateway.callback outside query cache).cache.get? _ = _ ∧ _
    rw [stored]
    refine ⟨Cache.get?_put_same _ _ _, ?_⟩
    intro other different
    exact Cache.get?_put_other cache different identity
  · intro code inside
    exact asksFor_of_exchange inside

end Gateway

namespace OneRoute
open Gateway

def namedSettings : Settings :=
  { settings with oauth := { settings.oauth with clientId := "id" } }

theorem made_named : Gateway.ofSettings namedSettings ⟨[]⟩ provider = .ok gateway :=
  configured

def strangers : Outside :=
  { outside with fetchProfile := fun _ => .value ⟨"alice@org.com.evil.com", "Alice", ""⟩ }

theorem unvouched_strangers (code : String) (identity : Identity) :
    ¬ gateway.Vouches strangers code identity := by
  intro vouches
  obtain ⟨accessToken, _, fetched⟩ := vouches.profile
  cases fetched
  have ending := vouches.ending
  rw [← List.isSuffixOf_iff_suffix] at ending
  exact absurd ending (by decide)

theorem steady_strangers (query : Option String) : ¬ gateway.Breaks strangers query := by
  rintro ⟨code, route, _, broken | ⟨accessToken, _, broken⟩⟩
  · cases broken
  · cases broken

theorem callback_decides_of_stray :
    namedSettings.validate [] = .ok () ∧
      Gateway.ofSettings namedSettings ⟨[]⟩ provider = .ok gateway ∧
      (∀ route ∈ gateway.routes.routes, IsCanonicalHost gateway.scheme route.host) ∧
      (∃ response, (gateway.callback outside strayQuery (.empty 0)).reply = .value response ∧
        response.status = 302) ∧
      (gateway.callback outside strayQuery (.empty 0)).cache.get? token = some alice ∧
      (∃ reason, (gateway.callback strangers strayQuery (.empty 0)).reply =
        .failed (.denied reason)) ∧
      (gateway.callback strangers strayQuery (.empty 0)).cache = .empty 0 := by
  have valid : namedSettings.validate [] = .ok () := by decide
  have canonical := canonical_routes
  have asks := asksFor_of_login strayLogin
  have vouches := vouches_of_login strayLogin
  obtain ⟨accepts, stores, _⟩ :=
    callback_decides valid made_named canonical outside strayQuery (.empty 0)
  obtain ⟨_, _, refuses, _⟩ :=
    callback_decides valid made_named canonical strangers strayQuery (.empty 0)
  obtain ⟨kept, denied | ⟨_, broken⟩⟩ :=
    refuses fun code _ identity _ => unvouched_strangers code identity
  · have stored := (stores _ _ _ asks vouches).1
    rw [strayLogin, encode_alice] at stored
    exact ⟨valid, made_named, canonical, accepts.mpr ⟨_, _, _, asks, vouches⟩, stored, denied, kept⟩
  · exact absurd broken (steady_strangers strayQuery)

end OneRoute

end LoginGateway
