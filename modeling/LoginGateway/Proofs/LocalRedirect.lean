import LoginGateway.Proofs.Handover
import LoginGateway.Url.Reference

/-! Where a completed login goes on. The path in the parameter is sent as it is, and a
browser drops tabs from it before it looks for slashes. A path that is local without
its tabs leads to the host that was asked; one that is local only with them need not. -/

namespace LoginGateway

namespace Url

/-- A reference with one slash in front, and no second one behind dropped characters,
leads to the server of the page it stands on. -/
theorem resolve_of_slash {base : Url} (special : isSpecial base.scheme = true)
    (segments : ∃ parts, base.path = .segments parts) {rest : List Char}
    (single : ∀ first others, rest.filter (!isBreak ·) = first :: others →
      isSlash true first = false) :
    ∃ url, resolve base ('/' :: rest) = .ok url ∧ url.SamePlace base := by
  have cleaned : clean ('/' :: rest) = '/' :: cleanEnd rest :=
    clean_append (List.forall_mem_singleton.mpr rfl) (List.cons_ne_nil _ _) rest
  have noScheme : splitScheme? ('/' :: cleanEnd rest) = none := rfl
  have slashes : (('/' :: cleanEnd rest).takeWhile (isSlash true)).length = 1 := by
    rw [List.takeWhile_cons_of_pos (by decide)]
    cases same : cleanEnd rest with
    | nil => rfl
    | cons first others =>
      obtain ⟨last, whole⟩ := cleanEnd_front rest
      rw [same] at whole
      rw [List.takeWhile_cons_of_neg (by rw [single first (others ++ last) whole.symm]; decide)]
      rfl
  obtain ⟨parts, path⟩ := segments
  have read : ∃ url, readRelative base ('/' :: cleanEnd rest) = .ok url ∧ url.SamePlace base := by
    simp only [readRelative, special, slashes]
    exact ⟨_, rfl, ⟨rfl, rfl, rfl⟩⟩
  obtain ⟨url, made, same⟩ := read
  refine ⟨url, ?_, same⟩
  simp only [resolve, cleaned, noScheme, path]
  exact made

end Url

namespace Gateway

variable {gateway : Gateway} {query : Option String} {cache : Cache} {token resume : String}

theorem queryPairs_serialize (pairs : List (String × String)) :
    queryPairs (some (String.ofList (Form.serialize pairs))) = pairs := by
  rw [queryPairs, Option.getD_some, octets, String.toList_ofList, Form.parse_serialize]

theorem isLocalPath_iff {path : String} : isLocalPath path = true ↔
    ∃ rest, path.toList = '/' :: rest ∧
      ∀ first others, rest = first :: others → Url.isSlash true first = false := by
  constructor
  · intro here
    unfold isLocalPath at here
    split at here
    next => cases here
    next => cases here
    next rest oneSlash notBack same =>
      refine ⟨rest, same, fun first others begins => ?_⟩
      simp only [Url.isSlash, Bool.true_and, Bool.or_eq_false_iff, decide_eq_false_iff_not]
      exact ⟨fun slash => oneSlash others (by rw [begins, slash]),
        fun slash => notBack others (by rw [begins, slash])⟩
    next => cases here
  · rintro ⟨rest, same, single⟩
    unfold isLocalPath
    rw [same]
    split
    next others begins =>
      cases begins
      exact absurd (single '/' others rfl) (by decide)
    next others begins =>
      cases begins
      exact absurd (single '\\' others rfl) (by decide)
    next => rfl
    next other => exact absurd rfl (other rest)

theorem isLocalPath_iff_begins {path : String} : isLocalPath path = true ↔
    "/".toList <+: path.toList ∧ ¬ "//".toList <+: path.toList ∧ ¬ "/\\".toList <+: path.toList := by
  have slash : "/".toList = ['/'] := by decide
  have slashes : "//".toList = ['/', '/'] := by decide
  have backslash : "/\\".toList = ['/', '\\'] := by decide
  rw [slash, slashes, backslash, isLocalPath_iff]
  constructor
  · rintro ⟨rest, begins, single⟩
    rw [begins]
    refine ⟨⟨rest, rfl⟩, ?_, ?_⟩
    · rintro ⟨others, same⟩
      exact absurd (single '/' others (List.cons.inj same).2.symm) (by decide)
    · rintro ⟨others, same⟩
      exact absurd (single '\\' others (List.cons.inj same).2.symm) (by decide)
  · rintro ⟨⟨rest, begins⟩, oneSlash, noBackslash⟩
    refine ⟨rest, begins.symm, ?_⟩
    rintro first others rfl
    simp only [Url.isSlash, Bool.true_and, Bool.or_eq_false_iff, decide_eq_false_iff_not]
    constructor
    · rintro rfl
      exact oneSlash ⟨others, begins⟩
    · rintro rfl
      exact noBackslash ⟨others, begins⟩

/-- A query brings a token to a bridge, and a path that stays on its host. -/
structure Resumes (query : Option String) (token resume : String) : Prop where
  hasToken : Form.first? (queryPairs query) "c" = some token
  filled : token ≠ ""
  hasPath : Form.first? (queryPairs query) "p" = some resume
  rooted : "/".toList <+: resume.toList
  oneSlash : ¬ "//".toList <+: resume.toList
  noBackslash : ¬ "/\\".toList <+: resume.toList

theorem resumes_iff : Resumes query token resume ↔ parameter? query "c" = some token ∧
    Form.first? (queryPairs query) "p" = some resume ∧ isLocalPath resume = true := by
  rw [parameter?_eq_some_iff, isLocalPath_iff_begins]
  constructor
  · rintro ⟨hasToken, filled, hasPath, rooted, oneSlash, noBackslash⟩
    exact ⟨⟨hasToken, filled⟩, hasPath, rooted, oneSlash, noBackslash⟩
  · rintro ⟨⟨hasToken, filled⟩, hasPath, rooted, oneSlash, noBackslash⟩
    exact ⟨hasToken, filled, hasPath, rooted, oneSlash, noBackslash⟩

theorem resumes_serialize {pairs : List (String × String)}
    (hasToken : Form.first? pairs "c" = some token) (filled : token ≠ "")
    (hasPath : Form.first? pairs "p" = some resume) (here : isLocalPath resume = true) :
    Resumes (some (String.ofList (Form.serialize pairs))) token resume := by
  rw [resumes_iff, parameter?_eq_some_iff, queryPairs_serialize]
  exact ⟨⟨hasToken, filled⟩, hasPath, here⟩

theorem completeBridge_of_resumes (resumes : Resumes query token resume)
    (sound : cache.Sound gateway.key) : (gateway.completeBridge query cache).reply =
      match Token.decode token gateway.key with
      | .error _ => .failed (.denied "bridge token rejected")
      | .ok _ => .ofResult ((Response.found resume).map
          (·.withCookie (Session.cookie token gateway.secureCookies))) := by
  obtain ⟨hasToken, hasPath, here⟩ := resumes_iff.mp resumes
  have complete : ¬ (token = "" ∨ (!isLocalPath resume) = true) := by
    simp [resumes.filled, here]
  simp only [completeBridge, hasToken, hasPath, Option.getD_some, if_neg complete]
  cases resolved : Session.resolve token gateway.key cache with
  | mk found left =>
    cases read : Token.decode token gateway.key with
    | ok identity =>
      have known := sound.resolve_iff.mpr read
      rw [resolved] at known
      cases known
      simp only [Outcome.quiet_eq]
    | error fault =>
      cases found with
      | none => rfl
      | some identity =>
        have accepted := sound.resolve_iff.mp (congrArg Prod.fst resolved)
        cases read.symm.trans accepted

theorem completeBridge_of_accepted {identity : Identity} (resumes : Resumes query token resume)
    (valid : Headers.isValue (octets resume) = true) (sound : cache.Sound gateway.key)
    (accepted : Token.decode token gateway.key = .ok identity) :
    (gateway.completeBridge query cache).reply = .value (gateway.sentOn resume token) := by
  rw [completeBridge_of_resumes resumes sound, accepted, Response.found_of_valid valid]
  rfl

/-- A bridge that answers sends the visitor on to the path in the query, which is local. -/
theorem location_of_completeBridge {response : Response}
    (ended : (gateway.completeBridge query cache).reply = .value response) :
    ∃ location token, Form.first? (queryPairs query) "p" = some location ∧
      isLocalPath location = true ∧ response = gateway.sentOn location token := by
  simp only [completeBridge] at ended
  split at ended
  next => cases ended
  next complete =>
    have here := (not_or.mp complete).2
    split at ended
    next => cases ended
    next =>
      rw [Outcome.quiet_eq, Response.found] at ended
      simp only [] at ended
      split at ended
      next =>
        cases ended
        cases hasPath : Form.first? (queryPairs query) "p" with
        | none =>
          rw [hasPath] at here
          exact absurd here (by decide)
        | some location =>
          rw [hasPath, Option.getD_some] at here
          exact ⟨location, _, rfl, by simpa using here, by rw [Option.getD_some]; rfl⟩
      next => cases ended

/-- A completed login goes on to the local path it was given, and if the path is still
local once a browser has dropped its tabs, that is a place on the host that was asked. -/
theorem local_redirect (web : Url.IsWeb gateway.scheme.toList) {host : String} {base : Url}
    (page : Url.parse (gateway.scheme ++ "://" ++ host ++ authPath).toList = .ok base)
    {response : Response} (ended : (gateway.completeBridge query cache).reply = .value response) :
    response.status = 302 ∧ ∃ location,
      response.headers.values "location" = [octets location] ∧ isLocalPath location = true ∧
      (isLocalPath (String.ofList (location.toList.filter (!Url.isBreak ·))) = true →
        ∃ url, Url.resolve base location.toList = .ok url ∧ url.SamePlace base) := by
  obtain ⟨resume, token, _, here, rfl⟩ := location_of_completeBridge ended
  rw [toList_address] at page
  have rooted := Url.rooted_of_web web page
  have special : Url.isSpecial base.scheme = true := by
    rw [rooted.scheme]
    exact (Url.isSpecial_web web).1
  refine ⟨rfl, resume, by simp [Headers.values, sentOn], here, fun still => ?_⟩
  obtain ⟨rest, same, _⟩ := isLocalPath_iff.mp here
  obtain ⟨others, dropped, single⟩ := isLocalPath_iff.mp still
  have first : Url.isBreak '/' = false := by decide
  rw [String.toList_ofList, same, List.filter_cons_of_pos (by rw [first]; rfl)] at dropped
  cases dropped
  rw [same]
  exact Url.resolve_of_slash special rooted.path single

end Gateway

namespace OneRoute

def page : Url := { backend with
  host := some (.domain "app.org.com".toList)
  port := none
  path := .segments ["__auth__".toList, []] }

theorem parse_page : Url.parse (gateway.scheme ++ "://" ++ "app.org.com" ++ authPath).toList =
    .ok page := by
  decide +kernel

def bridgeQuery (resume : String) : Option String :=
  some (String.ofList (Form.serialize [("p", resume), ("c", token)]))

theorem completeBridge_alice {resume : String} (here : Gateway.isLocalPath resume = true)
    (valid : Headers.isValue (octets resume) = true) :
    (gateway.completeBridge (bridgeQuery resume) (.empty 0)).reply =
      .value (gateway.sentOn resume token) := by
  have accepted := Token.decode_of_encode alice gateway.key
  rw [encode_alice] at accepted
  have resumes : Gateway.Resumes (bridgeQuery resume) token resume :=
    Gateway.resumes_serialize (by simp [Form.first?]) (by decide) (by simp [Form.first?]) here
  exact Gateway.completeBridge_of_accepted resumes valid (Cache.sound_empty _ 0) accepted

/-- Two slashes that a step upwards leaves at the front of a path name no host. -/
theorem local_redirect_of_steps :
    let sent := gateway.sentOn "/\tup/..//evil.com" token
    (gateway.completeBridge (bridgeQuery "/\tup/..//evil.com") (.empty 0)).reply = .value sent ∧
      sent.status = 302 ∧
      ∃ location, sent.headers.values "location" = [octets location] ∧
        Gateway.isLocalPath location = true ∧
        (Gateway.isLocalPath (String.ofList (location.toList.filter (!Url.isBreak ·))) = true →
          ∃ url, Url.resolve page location.toList = .ok url ∧ url.SamePlace page) := by
  intro sent
  have ended := completeBridge_alice (by decide : Gateway.isLocalPath "/\tup/..//evil.com")
    (by decide)
  exact ⟨ended, Gateway.local_redirect (.inl rfl) parse_page ended⟩

/-- A tab between two slashes hides the second one from the gateway and not from a
browser. -/
theorem leaves_host_of_tab :
    ∃ url, (gateway.completeBridge (bridgeQuery "/\t/evil.com") (.empty 0)).reply =
        .value (gateway.sentOn "/\t/evil.com" token) ∧
      Url.resolve page "/\t/evil.com".toList = .ok url ∧
      url.hostAndPort? = some "evil.com".toList ∧
      page.hostAndPort? = some "app.org.com".toList := by
  refine ⟨{ backend with host := some (.domain "evil.com".toList), port := none }, ?_, ?_, ?_, ?_⟩
  · exact completeBridge_alice (by decide) (by decide)
  · decide +kernel
  · decide
  · decide

end OneRoute

end LoginGateway
