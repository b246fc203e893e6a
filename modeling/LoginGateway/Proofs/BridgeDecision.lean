import LoginGateway.Proofs.LocalRedirect

/-! How a bridge answers, whatever query it is asked with. Only the first token and the
first path of the query count, and of the token only what it says under the key. -/

namespace LoginGateway

namespace Gateway

variable {gateway : Gateway} {query other : Option String} {cache : Cache}

theorem Resumes.of_same {token resume : String} (resumes : Resumes query token resume)
    (sameToken : Form.first? (queryPairs other) "c" = Form.first? (queryPairs query) "c")
    (samePath : Form.first? (queryPairs other) "p" = Form.first? (queryPairs query) "p") :
    Resumes other token resume :=
  { resumes with
    hasToken := sameToken.trans resumes.hasToken
    hasPath := samePath.trans resumes.hasPath }

/-- How a bridge answers a query. -/
inductive Finishes (gateway : Gateway) (query : Option String) : Reply Response → Prop where
  | incomplete (absent : ∀ token resume, ¬ Resumes query token resume) :
      Finishes gateway query (.failed (.bridge "bridge requires c and a local path p"))
  | rejected {token resume : String} {fault : Token.Fault} (resumes : Resumes query token resume)
      (refused : Token.decode token gateway.key = .error fault) :
      Finishes gateway query (.failed (.denied "bridge token rejected"))
  | unsendable {token resume : String} {identity : Identity} (resumes : Resumes query token resume)
      (accepted : Token.decode token gateway.key = .ok identity)
      (control : ∃ octet ∈ octets resume, Headers.IsControl octet) :
      Finishes gateway query (.failed (.bridge "redirect target is not a valid header value"))
  | sentOn {token resume : String} {identity : Identity} (resumes : Resumes query token resume)
      (accepted : Token.decode token gateway.key = .ok identity)
      (free : ∀ octet ∈ octets resume, ¬ Headers.IsControl octet) :
      Finishes gateway query (.value (gateway.sentOn resume token))

theorem Finishes.of_same {reply : Reply Response} (finishes : gateway.Finishes query reply)
    (sameToken : Form.first? (queryPairs other) "c" = Form.first? (queryPairs query) "c")
    (samePath : Form.first? (queryPairs other) "p" = Form.first? (queryPairs query) "p") :
    gateway.Finishes other reply := by
  cases finishes with
  | incomplete absent =>
    refine .incomplete fun token resume resumes => ?_
    exact absent token resume (resumes.of_same sameToken.symm samePath.symm)
  | rejected resumes refused => exact .rejected (resumes.of_same sameToken samePath) refused
  | unsendable resumes accepted control =>
    exact .unsendable (resumes.of_same sameToken samePath) accepted control
  | sentOn resumes accepted free =>
    exact .sentOn (resumes.of_same sameToken samePath) accepted free

theorem exists_finishes (gateway : Gateway) (query : Option String) :
    ∃ reply, gateway.Finishes query reply := by
  by_cases complete : ∃ token resume, Resumes query token resume
  · obtain ⟨token, resume, resumes⟩ := complete
    cases read : Token.decode token gateway.key with
    | error fault => exact ⟨_, .rejected resumes read⟩
    | ok identity =>
      by_cases control : ∃ octet ∈ octets resume, Headers.IsControl octet
      · exact ⟨_, .unsendable resumes read control⟩
      · refine ⟨_, .sentOn resumes read ?_⟩
        intro octet inside spoilt
        exact control ⟨octet, inside, spoilt⟩
  · refine ⟨_, .incomplete ?_⟩
    intro token resume resumes
    exact complete ⟨token, resume, resumes⟩

theorem completeBridge_of_absent (absent : ∀ token resume, ¬ Resumes query token resume) :
    (gateway.completeBridge query cache).reply =
      .failed (.bridge "bridge requires c and a local path p") := by
  rw [completeBridge, if_pos]
  · rfl
  · apply Classical.byContradiction
    intro complete
    obtain ⟨filled, here⟩ := not_or.mp complete
    rw [Bool.not_eq_true', Bool.not_eq_false] at here
    cases hasToken : parameter? query "c" with
    | none =>
      rw [hasToken] at filled
      exact filled rfl
    | some token =>
      cases hasPath : Form.first? (queryPairs query) "p" with
      | none =>
        rw [hasPath] at here
        exact absurd here (by decide)
      | some resume =>
        rw [hasPath] at here
        exact absent token resume (resumes_iff.mpr ⟨hasToken, hasPath, here⟩)

/-- The cache has no part in it. -/
theorem reply_of_finishes (sound : cache.Sound gateway.key) {reply : Reply Response}
    (finishes : gateway.Finishes query reply) :
    (gateway.completeBridge query cache).reply = reply := by
  cases finishes with
  | incomplete absent => exact completeBridge_of_absent absent
  | rejected resumes refused => rw [completeBridge_of_resumes resumes sound, refused]
  | unsendable resumes accepted control =>
    rw [completeBridge_of_resumes resumes sound, accepted, Response.found,
      Headers.isValue_eq_false_iff.mpr control]
    rfl
  | @sentOn token resume identity resumes accepted free =>
    have valid : Headers.isValue (octets resume) = true := by
      rw [← Bool.not_eq_false, Headers.isValue_eq_false_iff]
      rintro ⟨octet, inside, control⟩
      exact free octet inside control
    exact completeBridge_of_accepted resumes valid sound accepted

open Interleaving in
/-- From every state that is reached, a bridge refuses a query without a token or without
a path on its host, then a token that says nothing under the key, then a path that no
field can hold. To all others it answers with the path as it was read and with a cookie
of the token. Nothing else in the query or in the cache changes an answer. -/
theorem bridge_decides {capacity : Nat} {state : State}
    (reached : Reachable gateway capacity state) (query : Option String) :
    let reply := (gateway.completeBridge query state.cache).reply
    ((∀ token resume, ¬ Resumes query token resume) → (answer reply).status = 400 ∧
      reply = .failed (.bridge "bridge requires c and a local path p")) ∧
    (∀ token resume, Resumes query token resume →
      (∀ fault, Token.decode token gateway.key = .error fault → (answer reply).status = 403 ∧
        reply = .failed (.denied "bridge token rejected")) ∧
      ∀ identity, Token.decode token gateway.key = .ok identity →
        ((∃ octet ∈ octets resume, Headers.IsControl octet) → (answer reply).status = 400 ∧
          reply = .failed (.bridge "redirect target is not a valid header value")) ∧
        ((∀ octet ∈ octets resume, ¬ Headers.IsControl octet) → ∃ field,
          reply = .value ⟨302, [("location", octets resume), ("set-cookie", octets field)],
            .fixed []⟩ ∧
          Cookie.read? (Cookie.kept field) = some (Session.cookieName, token) ∧
          Cookie.attributesOf field =
            ["HttpOnly", "SameSite=Lax"] ++ (if gateway.secureCookies then ["Secure"] else [])
              ++ ["Path=/", "Max-Age=3600"])) ∧
    ∀ capacity later other, Reachable gateway capacity later →
      Form.first? (queryPairs other) "c" = Form.first? (queryPairs query) "c" →
      Form.first? (queryPairs other) "p" = Form.first? (queryPairs query) "p" →
      (gateway.completeBridge other later.cache).reply = reply := by
  intro reply
  have answers {expected : Reply Response} (finishes : gateway.Finishes query expected) :
      reply = expected :=
    reply_of_finishes reached.sound.cache finishes
  refine ⟨?_, ?_, ?_⟩
  · intro absent
    have refused := answers (.incomplete absent)
    exact ⟨by rw [refused]; rfl, refused⟩
  · intro token resume resumes
    refine ⟨?_, fun identity accepted => ⟨?_, ?_⟩⟩
    · intro fault unread
      have refused := answers (.rejected resumes unread)
      exact ⟨by rw [refused]; rfl, refused⟩
    · intro control
      have refused := answers (.unsendable resumes accepted control)
      exact ⟨by rw [refused]; rfl, refused⟩
    · intro free
      exact ⟨_, answers (.sentOn resumes accepted free), Session.read?_cookie token _,
        Session.attributesOf_cookie token _⟩
  · intro capacity later other reached sameToken samePath
    obtain ⟨expected, finishes⟩ := exists_finishes gateway query
    rw [answers finishes]
    exact reply_of_finishes reached.sound.cache (finishes.of_same sameToken samePath)

end Gateway

namespace OneRoute
open Gateway Interleaving

def queryOf (pairs : List (String × String)) : Option String :=
  some (String.ofList (Form.serialize pairs))

def repeats : Option String :=
  queryOf [("next", "//evil.com"), ("p", "/a b"), ("c", token), ("p", "//evil.com"), ("c", "forged")]

theorem resumes_repeats : Resumes repeats token "/a b" :=
  resumes_serialize (by decide) (by decide) (by decide) (by decide)

theorem resumes_control {token : String} (filled : token ≠ "") :
    Resumes (queryOf [("p", "/\x7f"), ("c", token)]) token "/\x7f" :=
  resumes_serialize (by simp [Form.first?]) filled (by simp [Form.first?]) (by decide)

theorem bridge_decides_of_repeats :
    Reachable gateway 0 (State.initial 0) ∧
      (∃ field, (gateway.completeBridge repeats (.empty 0)).reply =
          .value ⟨302, [("location", octets "/a b"), ("set-cookie", octets field)], .fixed []⟩ ∧
        Cookie.read? (Cookie.kept field) = some ("sso_session", token) ∧
        Cookie.attributesOf field = ["HttpOnly", "SameSite=Lax", "Path=/", "Max-Age=3600"]) ∧
      (gateway.completeBridge none (.empty 0)).reply =
        .failed (.bridge "bridge requires c and a local path p") ∧
      (gateway.completeBridge (queryOf [("p", "/\x7f"), ("c", "forged")]) (.empty 0)).reply =
        .failed (.denied "bridge token rejected") ∧
      (gateway.completeBridge (queryOf [("p", "/\x7f"), ("c", token)]) (.empty 0)).reply =
        .failed (.bridge "redirect target is not a valid header value") := by
  have start : Reachable gateway 0 (State.initial 0) := .refl
  have accepted := Token.decode_of_encode alice gateway.key
  rw [encode_alice] at accepted
  have forged : Token.decode "forged" gateway.key = .error .malformed := rfl
  have nothing : Form.first? (queryPairs none) "c" = none := rfl
  have absent (token resume : String) : ¬ Resumes none token resume := by
    intro resumes
    cases nothing.symm.trans resumes.hasToken
  have free : ∀ octet ∈ octets "/a b", ¬ Headers.IsControl octet :=
    List.all_iff_forall_prop.mp (by decide)
  have control : ∃ octet ∈ octets "/\x7f", Headers.IsControl octet := by decide
  refine ⟨start, ?_, ?_, ?_, ?_⟩
  · obtain ⟨_, sent⟩ := (bridge_decides start repeats).2.1 _ _ resumes_repeats
    exact (sent _ accepted).2 free
  · exact ((bridge_decides start none).1 absent).2
  · have filled : "forged" ≠ "" := by decide
    obtain ⟨refused, _⟩ := (bridge_decides start _).2.1 _ _ (resumes_control filled)
    exact (refused _ forged).2
  · have filled : token ≠ "" := by decide
    obtain ⟨_, sent⟩ := (bridge_decides start _).2.1 _ _ (resumes_control filled)
    exact ((sent _ accepted).1 control).2

end OneRoute

end LoginGateway
