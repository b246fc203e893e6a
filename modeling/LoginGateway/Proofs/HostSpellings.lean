import LoginGateway.Proofs.RecognizedStates

/-! How a request spells its host is of no account. The host is brought to one spelling
before it is looked up, and afterwards nothing looks at what the request said. -/

namespace LoginGateway

section Spellings

/-- A text that ends in a port, which may have no digits. -/
def EndsInPort (authority : List Char) : Prop :=
  ∃ name digits, authority = name ++ ':' :: digits ∧ ∀ digit ∈ digits, digit.isDigit = true

/-- A way to write an authority: with letters in any case, and with a standard port behind
it if it has none. Blanks around it do not count. -/
inductive IsSpelling (authority : List Char) (text : String) : Prop where
  | plain (letters : (trimWhile isBlankChar text.toList).map Char.toLower =
      authority.map Char.toLower)
  | withPort {name port : List Char} (portless : ¬ EndsInPort authority)
      (standard : port ∈ standardEndings) (written : trimWhile isBlankChar text.toList = name ++ port)
      (letters : name.map Char.toLower = authority.map Char.toLower)

variable {authority text : List Char}

theorem isDigit_of_toLower {char : Char} (digit : char.toLower.isDigit = true) :
    char.isDigit = true := by
  by_cases ascii : char.toNat < 0x80
  · exact of_ascii ascii (by decide) digit
  · rwa [toLower_of_high (Nat.le_of_not_lt ascii)] at digit

theorem standardEndings_spec : ∀ port ∈ standardEndings, port.map Char.toLower = port ∧
    ∃ digits, port = ':' :: digits ∧ ∀ digit ∈ digits, digit.isDigit = true := by
  intro port among
  rcases List.mem_cons.mp among with rfl | among
  · exact ⟨by decide, ['8', '0'], rfl, List.all_eq_true.mp (by decide)⟩
  · rw [List.mem_singleton.mp among]
    exact ⟨by decide, ['4', '4', '3'], rfl, List.all_eq_true.mp (by decide)⟩

/-- Where no port is written, none is found after the letters are made small. -/
theorem not_ends_of_portless (portless : ¬ EndsInPort authority) :
    ∀ port ∈ standardEndings, ¬ port <:+ authority.map Char.toLower := by
  rintro port among ⟨front, same⟩
  obtain ⟨_, digits, rfl, numbers⟩ := standardEndings_spec port among
  obtain ⟨name, written, rfl, _, small⟩ := List.map_eq_append_iff.mp same.symm
  obtain ⟨colon, others, rfl, sign, rfl⟩ := List.map_eq_cons_iff.mp small
  rw [toLower_eq_iff (by decide)] at sign
  refine portless ⟨name, others, by rw [sign], fun digit inside => ?_⟩
  exact isDigit_of_toLower (numbers _ (List.mem_map_of_mem inside))

theorem withoutEnding_append (standard : text ∈ standardEndings) (name : List Char) :
    withoutEnding (name ++ text) standardEndings = name := by
  have cut : (name ++ text).take ((name ++ text).length - text.length) = name := by
    rw [List.length_append, Nat.add_sub_cancel, List.take_left]
  rcases List.mem_cons.mp standard with rfl | standard
  · rw [standardEndings, withoutEnding, if_pos (List.isSuffixOf_iff_suffix.mpr ⟨name, rfl⟩), cut]
  · cases List.mem_singleton.mp standard
    have other : ¬ ":80".toList <:+ name ++ ":443".toList := by
      intro ends
      have same := eq_of_suffixes (by decide) (by decide) ends (List.suffix_append name ":443".toList)
      exact absurd same (by decide)
    rw [standardEndings, withoutEnding, if_neg (mt List.isSuffixOf_iff_suffix.mp other),
      withoutEnding, if_pos (List.isSuffixOf_iff_suffix.mpr ⟨name, rfl⟩), cut]

/-- All spellings of an authority are compared as the same host. -/
theorem canonicalHost_of_isSpelling {text : String} (spelled : IsSpelling authority text) :
    canonicalHost text =
      String.ofList (withoutEnding (authority.map Char.toLower) standardEndings) := by
  have read : canonicalHost text = String.ofList (withoutEnding
      ((trimWhile isBlankChar text.toList).map Char.toLower) standardEndings) := by
    rw [canonicalHost, trim, String.toList_ofList]
    rfl
  rw [read]
  cases spelled with
  | plain letters => rw [letters]
  | withPort portless standard written letters =>
    rw [written, List.map_append, letters, (standardEndings_spec _ standard).1,
      withoutEnding_append standard, withoutEnding_of_other (not_ends_of_portless portless)]

end Spellings

/-- The authority that a request names: in its target, or else in its first host field. -/
def Request.authority (request : Request) : String :=
  request.target.authority.getD
    (String.ofList (((request.headers.first? "host").bind Headers.visible?).getD []))

theorem Gateway.requestHost_eq (request : Request) :
    requestHost request = canonicalHost request.authority := by
  rw [requestHost, Request.authority]
  cases request.target.authority <;> rfl

/-- Two requests that differ in nothing but the spelling of the authority they name. It may
be named in the target or in a field, and if it is named in the target, the field does not
count. -/
structure Request.Respells (first second : Request) : Prop where
  method : first.method = second.method
  pathAndQuery : first.target.pathAndQuery = second.target.pathAndQuery
  query : first.target.query = second.target.query
  fields : first.headers.without "host" = second.headers.without "host"
  body : first.body = second.body
  authority : ∃ authority, IsSpelling authority first.authority ∧ IsSpelling authority second.authority

theorem Target.path_of_same {first second : Target}
    (whole : first.pathAndQuery = second.pathAndQuery) (query : first.query = second.query) :
    first.path = second.path := by
  rw [pathAndQuery, pathAndQuery, query] at whole
  cases asked : second.query with
  | none =>
    rw [asked] at whole
    exact whole
  | some text =>
    rw [asked] at whole
    simp only [String.append_assoc] at whole
    have raw : first.rawPath = second.rawPath := by
      have texts := congrArg String.toList whole
      simp only [String.toList_append] at texts
      exact String.toList_inj.mp (List.append_cancel_right texts)
    rw [path, path, raw]

namespace Headers

theorem listed_without_host (headers : Headers) : (headers.without "host").listed = headers.listed := by
  rw [listed, values_without_other headers (by decide), listed]

theorem endToEnd_without_host (headers : Headers) :
    (headers.without "host").endToEnd = headers.endToEnd.without "host" := by
  rw [endToEnd, endToEnd, listed_without_host, without, without, List.filter_filter,
    List.filter_filter]
  congr 1
  funext field
  exact Bool.and_comm _ _

theorem token?_without_host (headers : Headers) :
    Session.token? (headers.without "host") = Session.token? headers := by
  rw [Session.token?, Cookie.jar, values_without_other headers (by decide), ← Cookie.jar,
    ← Session.token?]

end Headers

namespace Request.Respells

variable {first second : Request} {gateway : Gateway}

theorem host (same : first.Respells second) :
    Gateway.requestHost first = Gateway.requestHost second := by
  obtain ⟨authority, here, there⟩ := same.authority
  rw [Gateway.requestHost_eq, Gateway.requestHost_eq, canonicalHost_of_isSpelling here,
    canonicalHost_of_isSpelling there]

theorem path (same : first.Respells second) : first.target.path = second.target.path :=
  Target.path_of_same same.pathAndQuery same.query

theorem token (same : first.Respells second) :
    Session.token? first.headers = Session.token? second.headers := by
  rw [← Headers.token?_without_host, same.fields, Headers.token?_without_host]

theorem visitor (same : first.Respells second) (key : SigningKey) :
    Interleaving.Task.visitor first.headers key = Interleaving.Task.visitor second.headers key := by
  funext next
  rw [Interleaving.Task.visitor, Interleaving.Task.visitor, same.token]

theorem outgoing (same : first.Respells second) (route : Route) (identity : Identity) :
    Relay.outgoing route identity first = Relay.outgoing route identity second := by
  have fields : Relay.requestHeaders first.headers identity =
      Relay.requestHeaders second.headers identity := by
    rw [Relay.requestHeaders, Relay.requestHeaders, ← Headers.endToEnd_without_host, same.fields,
      Headers.endToEnd_without_host]
  rw [Relay.outgoing, Relay.outgoing, same.pathAndQuery, same.method, fields, same.body]

theorem forward (same : first.Respells second) (route : Route) (identity : Identity) :
    Interleaving.Task.forward route identity first =
      Interleaving.Task.forward route identity second := by
  rw [Interleaving.Task.forward, Interleaving.Task.forward, same.outgoing]

theorem toProvider (same : first.Respells second) (route : Route) :
    gateway.toProvider route first.target = gateway.toProvider route second.target := by
  rw [Gateway.toProvider, Gateway.toProvider, Gateway.stateOf, Gateway.stateOf, same.pathAndQuery]

theorem ofRequest (same : first.Respells second) :
    Interleaving.Task.ofRequest gateway first = Interleaving.Task.ofRequest gateway second := by
  simp only [Interleaving.Task.ofRequest, Interleaving.Task.ofRoute, Interleaving.Task.ofHub,
    same.host, same.path, same.query, same.method, same.visitor, same.forward, same.toProvider]

theorem serve (same : first.Respells second) (outside : Outside) (cache : Cache) :
    gateway.serve outside cache first = gateway.serve outside cache second := by
  rw [Gateway.serve, Gateway.serve, ← Interleaving.Task.outcome_ofRequest,
    ← Interleaving.Task.outcome_ofRequest, same.ofRequest, same.method]

end Request.Respells

namespace Gateway

/-- Requests that come in turn may each be spelled in another way: all answers, all calls
and the cache that is left are the same. -/
theorem run_of_respells (gateway : Gateway) {first second : List (Outside × Request)}
    (same : List.Forall₂ (fun one other => one.1 = other.1 ∧ one.2.Respells other.2) first second)
    (cache : Cache) : gateway.run cache first = gateway.run cache second := by
  induction same generalizing cache with
  | nil => rfl
  | @cons one other first second here later ih =>
    obtain ⟨outside, request⟩ := one
    obtain ⟨_, respelled⟩ := other
    obtain ⟨rfl, same⟩ := here
    simp only [run, same.serve, ih]

/-- Whatever the cache holds and whatever the services outside answer, two requests that
spell the same authority in two ways get the same response, are passed on as the same
request and leave the same cache. What is to do for them is the same from step to step, so
this is so too while other requests are served. -/
theorem served_alike {first second : Request} (same : first.Respells second) (gateway : Gateway) :
    Interleaving.Task.ofRequest gateway first = Interleaving.Task.ofRequest gateway second ∧
      ∀ outside cache, gateway.serve outside cache first = gateway.serve outside cache second :=
  ⟨same.ofRequest, same.serve⟩

end Gateway

namespace OneRoute
open Gateway

def respelledVisit : Request := { visit with
  target := ⟨some "App.ORG.com:443", "/dashboard", none⟩
  headers := [("cookie", octets ("sso_session=" ++ token)), ("host", octets "other.org:80")] }

theorem visit_respells : visit.Respells respelledVisit where
  method := rfl
  pathAndQuery := rfl
  query := rfl
  fields := rfl
  body := rfl
  authority := by
    have portless : ¬ EndsInPort "app.org.com".toList := by
      rintro ⟨name, digits, same, _⟩
      have colon : ':' ∈ "app.org.com".toList := by
        rw [same]
        exact List.mem_append_right name List.mem_cons_self
      exact absurd colon (by decide)
    have cut : trimWhile isBlankChar respelledVisit.authority.toList =
        "App.ORG.com".toList ++ ":443".toList := by decide
    exact ⟨"app.org.com".toList, .plain (by decide),
      .withPort portless (by decide) cut (by decide)⟩

theorem served_alike_of_visit : visit.Respells respelledVisit ∧
    visit.authority = "app.org.com" ∧ respelledVisit.authority = "App.ORG.com:443" ∧
    (gateway.serve outside (.empty 0) respelledVisit).2.2 = [.backend sent] := by
  have alike := (served_alike visit_respells gateway).2 outside (.empty 0)
  have calls : (gateway.serve outside (.empty 0) visit).2.2 = [.backend sent] := by
    rw [serve_calls]
    exact handle_of_admits (Cache.sound_empty _ 0) admits_visit outgoing_visit
  rw [alike] at calls
  exact ⟨visit_respells, by decide, by decide, calls⟩

end OneRoute

end LoginGateway
