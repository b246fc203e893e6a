import LoginGateway.Proofs.FormLengths
import LoginGateway.Proofs.LoginHandshake

/-! A bridge may send a visitor on to a bridge, but not forever. The path to go on with
stands in the query, and it is read as something shorter than the request it came with. -/

namespace LoginGateway

namespace Target

def size (target : Target) : Nat := (octets target.pathAndQuery).length

theorem size_of_query {target : Target} {query : String} (asked : target.query = some query) :
    target.size = (octets target.rawPath).length + (1 + (octets query).length) := by
  have sign : Utf8.encode "?".toList = [63] := by decide
  rw [size, pathAndQuery, asked]
  simp only [octets, String.toList_append, Utf8.encode_append, List.length_append, sign,
    List.length_singleton]
  omega

theorem size_le_of_parse? {text : String} {target : Target}
    (rooted : ∃ rest, text.toList = '/' :: rest) (read : parse? text = some target) :
    target.size ≤ (octets text).length := by
  obtain ⟨rest, begins⟩ := rooted
  rw [parse?, begins] at read
  obtain ⟨fragment, whole⟩ := List.takeWhile_prefix (l := '/' :: rest) (· ≠ '#')
  rw [size, octets, octets, pathAndQuery_of_slash read, begins]
  have parts := congrArg (fun text => (Utf8.encode text).length) whole
  simp only [Utf8.encode_append, List.length_append] at parts
  omega

end Target

namespace Gateway

variable {gateway : Gateway} {cache : Cache}

theorem location_lt {target : Target} {response : Response}
    (ended : (gateway.completeBridge target.query cache).reply = .value response) :
    response.status = 302 ∧ ∃ location, response.headers.values "location" = [octets location] ∧
      isLocalPath location = true ∧ (octets location).length < target.size := by
  obtain ⟨location, token, found, here, rfl⟩ := location_of_completeBridge ended
  refine ⟨rfl, location, by simp [Headers.values, sentOn], here, ?_⟩
  cases asked : target.query with
  | none =>
    rw [asked] at found
    cases found
  | some query =>
    rw [asked] at found
    have bound : (octets location).length ≤ (octets query).length := Form.length_le_of_first? found
    rw [Target.size_of_query asked]
    omega

/-- A client that asks a bridge for one place is sent on to the next. -/
structure LeadsTo (gateway : Gateway) (first next : Request) : Prop where
  atRoute : gateway.AtRoute first .bridge
  answered : ∃ outside cache response location,
    (gateway.handle outside cache first).reply = .value response ∧
      response.headers.values "location" = [octets location] ∧
      Target.parse? location = some next.target

theorem LeadsTo.size_lt {first next : Request} (leads : gateway.LeadsTo first next) :
    next.target.size < first.target.size := by
  obtain ⟨outside, cache, response, location, answered, named, read⟩ := leads.answered
  rw [leads.atRoute.bridge] at answered
  obtain ⟨_, sent, same, here, shorter⟩ := location_lt answered
  rw [named] at same
  cases octets_injective (List.singleton_inj.mp same)
  obtain ⟨rest, begins, _⟩ := isLocalPath_iff.mp here
  exact Nat.lt_of_le_of_lt (Target.size_le_of_parse? ⟨rest, begins⟩ read) shorter

/-- Each time a client is sent on, what it asks for gets shorter. -/
theorem size_of_chain {chain : Nat → Request} {count : Nat}
    (leads : ∀ step < count, gateway.LeadsTo (chain step) (chain (step + 1))) :
    (chain count).target.size + count ≤ (chain 0).target.size := by
  induction count with
  | zero => exact Nat.le_refl _
  | succ count ih =>
    have before := ih fun step early => leads step (Nat.lt_succ_of_lt early)
    have last := (leads count (Nat.lt_succ_self count)).size_lt
    omega

/-- Whatever the query of a request holds, a bridge that answers it answers with a place
that is shorter than the path and query it was asked for. So a client that follows its
answers, each time asking for the place that it was sent on to, is sent on at most once
for every octet of what it asked for first. -/
theorem bridges_end (gateway : Gateway) :
    (∀ target cache response, (gateway.completeBridge (Target.query target) cache).reply =
        .value response → response.status = 302 ∧ ∃ location,
      response.headers.values "location" = [octets location] ∧
      (octets location).length < (octets target.pathAndQuery).length) ∧
    ∀ chain : Nat → Request, ∃ step ≤ (octets (chain 0).target.pathAndQuery).length,
      ¬ gateway.LeadsTo (chain step) (chain (step + 1)) := by
  constructor
  · intro target cache response ended
    obtain ⟨status, location, same, _, shorter⟩ := location_lt ended
    exact ⟨status, location, same, shorter⟩
  · intro chain
    apply Classical.byContradiction
    intro endless
    have leads (step : Nat) (early : step < (chain 0).target.size + 1) :
        gateway.LeadsTo (chain step) (chain (step + 1)) := by
      apply Classical.byContradiction
      intro ends
      exact endless ⟨step, Nat.le_of_lt_succ early, ends⟩
    have bound := size_of_chain leads
    omega

end Gateway

namespace OneRoute
open Gateway

def nestedPath : Nat → String
  | 0 => "/"
  | depth + 1 => authPath ++ "?" ++ (bridgeQuery (nestedPath depth)).getD ""

def nested (depth : Nat) : Request := get "app.org.com" authPath (bridgeQuery (nestedPath depth))

theorem nestedPath_succ (depth : Nat) : (nestedPath (depth + 1)).toList =
    authPath.toList ++ '?' :: Form.serialize [("p", nestedPath depth), ("c", token)] := by
  have sign : "?".toList = ['?'] := by decide
  simp [nestedPath, bridgeQuery, sign]

theorem parse?_nestedPath (depth : Nat) :
    Target.parse? (nestedPath (depth + 1)) = some (nested depth).target := by
  have queries : ∀ char ∈ Form.serialize [("p", nestedPath depth), ("c", token)],
      Target.isQueryChar char = true := by
    have plain : ∀ char ∈ '&' :: '=' :: Form.alphabet, Target.isQueryChar char = true :=
      List.all_iff_forall_prop.mp (by decide)
    intro char inside
    exact plain char (Form.mem_serialize inside)
  have paths : ∀ char ∈ authPath.toList, Target.isPathChar char = true :=
    List.all_iff_forall_prop.mp (by decide)
  have query : ∀ text, some (Form.serialize [("p", nestedPath depth), ("c", token)]) = some text →
      ∀ char ∈ text, Target.isQueryChar char = true := by
    rintro text ⟨⟩
    exact queries
  rw [Target.parse?, nestedPath_succ]
  exact Target.readPath?_of_plain none paths query

theorem isLocalPath_nestedPath (depth : Nat) : isLocalPath (nestedPath depth) = true := by
  cases depth with
  | zero => decide
  | succ depth =>
    rw [isLocalPath, nestedPath_succ]
    rfl

theorem isValue_nestedPath (depth : Nat) : Headers.isValue (octets (nestedPath depth)) = true := by
  cases depth with
  | zero => decide
  | succ depth =>
    rw [octets, nestedPath_succ]
    apply Headers.isValue_of_printable
    apply Printable.append
    · intro char inside
      exact (plain_authPath char inside).2.2
    · apply Printable.cons (by decide)
      intro char inside
      exact (Form.plain_of_mem char (Form.mem_serialize inside)).2.2.1

theorem atRoute_nested (depth : Nat) : gateway.AtRoute (nested depth) .bridge := by
  refine ⟨⟨app, ?_⟩, ?_⟩
  · rw [nested, requestHost_get]
    decide
  · change Errand.ofPath (Target.path ⟨none, authPath, none⟩) = .bridge
    decide

theorem leadsTo_nested (depth : Nat) : gateway.LeadsTo (nested (depth + 1)) (nested depth) := by
  have answered :=
    completeBridge_alice (isLocalPath_nestedPath (depth + 1)) (isValue_nestedPath (depth + 1))
  refine ⟨atRoute_nested _, outside, .empty 0, gateway.sentOn (nestedPath (depth + 1)) token,
    nestedPath (depth + 1), ?_, ?_, parse?_nestedPath depth⟩
  · rw [(atRoute_nested _).bridge]
    exact answered
  · simp [Headers.values, sentOn]

/-- A visit that is sent on three times. -/
theorem bridges_end_of_nested :
    gateway.LeadsTo (nested 2) (nested 1) ∧ gateway.LeadsTo (nested 1) (nested 0) ∧
      (∃ response, (gateway.completeBridge (nested 2).target.query (.empty 0)).reply =
          .value response ∧ ∃ location, response.headers.values "location" = [octets location] ∧
        (octets location).length < (octets (nested 2).target.pathAndQuery).length) ∧
      ∃ step ≤ (octets (nested 2).target.pathAndQuery).length,
        ¬ gateway.LeadsTo (nested (2 - step)) (nested (2 - (step + 1))) := by
  have answered := completeBridge_alice (isLocalPath_nestedPath 2) (isValue_nestedPath 2)
  obtain ⟨shorter, ends⟩ := bridges_end gateway
  have sent := (shorter (nested 2).target _ _ answered).2
  exact ⟨leadsTo_nested 1, leadsTo_nested 0, ⟨_, answered, sent⟩, ends fun step => nested (2 - step)⟩

end OneRoute

end LoginGateway
