import LoginGateway.Proofs.BridgeDecision
import LoginGateway.Proofs.RelayedFields
import LoginGateway.Proofs.TokenAcceptance

/-! Sessions survive the cookies they are kept in. A token that is accepted holds nothing
that a cookie loses or that an escape could be taken for, so whether a client sends it as
it is, as it was set, or escaped once more, the same visitor is known by it. -/

namespace LoginGateway

namespace Cookie

/-- A character that may stand anywhere in a value that is sent. -/
structure IsSendable (char : Char) : Prop where
  visible : 0x20 ≤ char.toNat ∧ char.toNat < 0x7F
  inner : char ≠ ';'
  filled : isBlankChar char = false

theorem isSendable_escape (text : String) : ∀ char ∈ (escape text).toList, IsSendable char := by
  intro char inside
  obtain ⟨inner, _, filled⟩ := isInner_spec (isInner_escape text char inside)
  exact ⟨visible_escape text char inside, inner, filled⟩

theorem isSendable_sign : ∀ char ∈ Percent.signs, IsSendable char := by
  have signs : ∀ char ∈ Percent.signs, (0x20 ≤ char.toNat ∧ char.toNat < 0x7F) ∧ char ≠ ';' ∧
      isBlankChar char = false :=
    List.all_iff_forall_prop.mp (by decide)
  intro char inside
  obtain ⟨visible, inner, filled⟩ := signs char inside
  exact ⟨visible, inner, filled⟩

theorem isSendable_encodeText {text : List Char} (sendable : ∀ char ∈ text, IsSendable char)
    (escaped : UInt8 → Bool) : ∀ char ∈ Percent.encodeText escaped text, IsSendable char := by
  intro char inside
  rcases Percent.mem_encodeText inside with sign | ⟨old, _⟩
  · exact isSendable_sign char sign
  · exact sendable char old

theorem jar_alone {name value : List Char} {read : String × String}
    (visible : ∀ char ∈ name ++ '=' :: value, (0x20 ≤ char.toNat ∧ char.toNat < 0x7F) ∧ char ≠ ';')
    (found : read? (name ++ '=' :: value) = some read) {headers : Headers}
    (sent : headers.values "cookie" = [Utf8.encode (name ++ '=' :: value)]) :
    jar headers = [read] := by
  have whole : Headers.visible? (Utf8.encode (name ++ '=' :: value)) = some (name ++ '=' :: value) := by
    apply Headers.visible?_of_ascii
    intro char inside
    exact (visible char inside).1
  have absent : ';' ∉ name ++ '=' :: value := fun inside => (visible ';' inside).2 rfl
  rw [jar_eq, carried, sent, List.filterMap_cons_some whole, List.filterMap_nil, List.flatMap_cons,
    List.flatMap_nil, List.append_nil, pieces_of_not_mem absent, List.filterMap_cons_some found,
    List.filterMap_nil]

end Cookie

namespace Token

theorem ascii_of_isWritten {char : Char} (written : Base64.isWritten char = true) :
    char.toNat < 0x80 := by
  by_cases filler : char = '='
  · rw [filler]
    decide
  · apply Headers.ascii_of_isNameChar
    simp only [Base64.isWritten, filler, decide_false, Bool.or_false, Bool.or_eq_true,
      decide_eq_true_eq] at written
    rcases written with (letter | rfl) | rfl
    · rw [Headers.isNameChar, letter, Bool.true_or]
    · decide
    · decide

theorem isSendable_of_written {char : Char}
    (among : Base64.isWritten char = true ∨ char = separator) :
    Cookie.IsSendable char ∧ char ≠ '%' := by
  have ascii : char.toNat < 0x80 := by
    rcases among with written | rfl
    · exact ascii_of_isWritten written
    · decide
  have plain : ((0x20 ≤ char.toNat ∧ char.toNat < 0x7F) ∧ char ≠ ';' ∧ isBlankChar char = false) ∧
      char ≠ '%' := of_ascii ascii (by decide) among
  obtain ⟨⟨visible, inner, filled⟩, sign⟩ := plain
  exact ⟨⟨visible, inner, filled⟩, sign⟩

/-- Nothing in a token that is accepted is lost in a cookie, and no escape begins with it. -/
theorem isSendable_of_decode {token : String} {key : SigningKey} {identity : Identity}
    (accepted : decode token key = .ok identity) :
    ∀ char ∈ token.toList, Cookie.IsSendable char ∧ char ≠ '%' := by
  have inside : separator ∈ token.toList := by
    apply Decidable.byContradiction
    intro absent
    cases accepted.symm.trans (decode_uncut absent key)
  obtain ⟨before, payload, cut⟩ := exists_cut inside
  obtain ⟨signed, read⟩ := cut.of_accepted accepted
  obtain ⟨json, written⟩ : ∃ json, payload = Base64.encode json := by
    unfold decodePayload at read
    split at read
    next => cases read
    next json found => exact ⟨json, Utf8.encode_injective (Base64.decode_eq_ok_iff.mp found)⟩
  intro char among
  apply isSendable_of_written
  rw [cut.text, signed, written] at among
  rcases List.mem_append.mp among with front | rest
  · exact .inl (Base64.isWritten_of_mem_encode _ char front)
  · rcases List.mem_cons.mp rest with same | behind
    · exact .inr same
    · exact .inl (Base64.isWritten_of_mem_encode _ char behind)

end Token

namespace Session

variable {token inner : String} {key : SigningKey} {identity : Identity} {cache : Cache}
  {headers : Headers}

/-- The ways in which a client may spell a token: as it is, as it was set, and with any
escapes for what was set that leave no percent sign unescaped. -/
inductive IsSpelling (token : String) : String → Prop
  | plain : IsSpelling token token
  | set : IsSpelling token (Cookie.escape token)
  | again {escaped : UInt8 → Bool} (sign : escaped 37 = true) :
      IsSpelling token (String.ofList (Percent.encodeText escaped (Cookie.escape token).toList))

theorem unescape?_of_plain (plain : '%' ∉ token.toList) :
    Cookie.unescape? token.toList = some token := by
  have absent : 37 ∉ Utf8.encode token.toList := fun inside =>
    plain (Utf8.mem_of_mem_encode (by decide) inside)
  rw [Cookie.unescape?, Percent.decode_of_not_mem absent]
  exact text?_octets token

theorem token?_of_value {value : List Char}
    (sendable : ∀ char ∈ value, Cookie.IsSendable char)
    (first : Cookie.unescape? value = some inner) (filled : inner ≠ "")
    (second : Cookie.unescape? inner.toList = some token)
    (sent : headers.values "cookie" = [Utf8.encode (cookieName.toList ++ '=' :: value)]) :
    token? headers = some token := by
  have name : ∀ char ∈ cookieName.toList, ((0x20 ≤ char.toNat ∧ char.toNat < 0x7F) ∧
      char ≠ ';') ∧ isBlankChar char = false ∧ char ≠ '=' :=
    List.all_iff_forall_prop.mp (by decide)
  have visible : ∀ char ∈ cookieName.toList ++ '=' :: value,
      (0x20 ≤ char.toNat ∧ char.toNat < 0x7F) ∧ char ≠ ';' := by
    intro char inside
    rcases List.mem_append.mp inside with named | rest
    · exact (name char named).1
    · rcases List.mem_cons.mp rest with rfl | valued
      · decide
      · exact ⟨(sendable char valued).visible, (sendable char valued).inner⟩
  have absent : '=' ∉ cookieName.toList := fun inside => (name '=' inside).2.2 rfl
  have spelled : Cookie.unescape? cookieName.toList = some cookieName := by
    apply unescape?_of_plain
    decide
  have found : Cookie.read? (cookieName.toList ++ '=' :: value) = some (cookieName, inner) := by
    rw [Cookie.read?, split?_append absent]
    simp only [Option.bind_eq_bind, Option.bind_some,
      trimWhile_of_kept fun char inside => (name char inside).2.1,
      trimWhile_of_kept fun char inside => (sendable char inside).filled]
    rw [if_neg (by decide), spelled, first]
    rfl
  rw [token?, Cookie.jar_alone visible found sent]
  simp only [Cookie.find?, List.reverse_singleton, List.find?_singleton, decide_true, if_true,
    Option.map_some, Option.bind_eq_bind, Option.bind_some, if_neg filled]
  exact second

theorem token?_of_spelling {value : String} (accepted : Token.decode token key = .ok identity)
    (spelling : IsSpelling token value)
    (sent : headers.values "cookie" = [octets (cookieName ++ "=" ++ value)]) :
    token? headers = some token := by
  have characters := Token.isSendable_of_decode accepted
  have plain : '%' ∉ token.toList := fun inside => (characters '%' inside).2 rfl
  have itself := unescape?_of_plain plain
  have filled : token ≠ "" := by
    rintro rfl
    cases accepted
  have written : octets (cookieName ++ "=" ++ value) =
      Utf8.encode (cookieName.toList ++ '=' :: value.toList) := by
    rw [octets, String.toList_append, String.toList_append, List.append_assoc]
    rfl
  rw [written] at sent
  cases spelling with
  | plain =>
    exact token?_of_value (fun char inside => (characters char inside).1) itself filled itself sent
  | set =>
    exact token?_of_value (Cookie.isSendable_escape token) (Cookie.unescape?_escape token) filled
      itself sent
  | again sign =>
    rename_i escaped
    have once : Cookie.unescape? (Percent.encodeText escaped (Cookie.escape token).toList) =
        some (Cookie.escape token) := by
      rw [Cookie.unescape?, Percent.encodeText, Percent.decode_encode sign]
      exact text?_octets _
    have some : Cookie.escape token ≠ "" := by
      intro empty
      have read := Cookie.unescape?_escape token
      rw [empty] at read
      have nothing : Cookie.unescape? [] = some "" := by decide +kernel
      exact filled (Option.some.inj (read.symm.trans nothing))
    rw [String.toList_ofList] at sent
    exact token?_of_value (Cookie.isSendable_encodeText (Cookie.isSendable_escape token) escaped)
      once some (Cookie.unescape?_escape token) sent

theorem visitor_of_spelling (sound : cache.Sound key) {value : String}
    (accepted : Token.decode token key = .ok identity) (spelling : IsSpelling token value)
    (sent : headers.values "cookie" = [octets (cookieName ++ "=" ++ value)]) :
    (visitor headers key cache).1 = some identity := by
  rw [visitor, token?_of_spelling accepted spelling sent]
  exact sound.resolve_iff.mpr accepted

theorem kept_cookie (token : String) (secure : Bool) :
    Cookie.kept (cookie token secure).field =
      (cookieName ++ "=" ++ Cookie.escape token).toList := by
  have name : Cookie.escape cookieName = cookieName := by decide +kernel
  rw [Cookie.kept_field, String.toList_append, String.toList_append, List.append_assoc]
  change (Cookie.escape cookieName).toList ++ '=' :: _ = _
  rw [name]
  rfl

end Session

namespace Gateway

variable {gateway : Gateway} {outside : Outside} {query : Option String} {cache : Cache}
  {response : Response}

theorem cookie_of_callback
    (ended : (gateway.callback outside query cache).reply = .value response) :
    ∃ login : Login gateway outside query, response.headers.values "set-cookie" =
      [octets (Session.cookie login.token gateway.secureCookies).field] := by
  obtain ⟨login, handed, _⟩ := login_of_callback ended
  obtain ⟨location, fields⟩ := handOn_spec handed
  refine ⟨login, ?_⟩
  rw [fields]
  simp [Headers.values]

theorem cookie_of_completeBridge (sound : cache.Sound gateway.key)
    (ended : (gateway.completeBridge query cache).reply = .value response) :
    ∃ token resume identity, Resumes query token resume ∧
      Token.decode token gateway.key = .ok identity ∧ response.headers.values "set-cookie" =
        [octets (Session.cookie token gateway.secureCookies).field] := by
  obtain ⟨reply, finishes⟩ := exists_finishes gateway query
  rw [reply_of_finishes sound finishes] at ended
  cases finishes with
  | incomplete => cases ended
  | rejected => cases ended
  | unsendable => cases ended
  | sentOn resumes accepted =>
    cases ended
    refine ⟨_, _, _, resumes, accepted, ?_⟩
    simp [sentOn, Headers.values]

open Session in
/-- A token that is accepted makes its bearer known in every spelling in which its cookie may
come back, whatever a sound cache holds, and what is kept of the cookie that was set is such
a spelling. So whoever sends back what a callback or a bridge set is known: as the profile
that was accepted, and as whom the token in the query vouches for. -/
theorem cookie_round_trip (sound : cache.Sound gateway.key) :
    (∀ token identity value headers, Token.decode token gateway.key = .ok identity →
      IsSpelling token value → headers.values "cookie" = [octets (cookieName ++ "=" ++ value)] →
      (visitor headers gateway.key cache).1 = some identity) ∧
    (∀ identity, Token.decode (Token.encode identity gateway.key) gateway.key = .ok identity) ∧
    (∀ token secure, Cookie.kept (cookie token secure).field =
      (cookieName ++ "=" ++ Cookie.escape token).toList) ∧
    (∀ outside query before response,
      (gateway.callback outside query before).reply = .value response →
      ∃ (login : Login gateway outside query) (field : String),
        response.headers.values "set-cookie" = [octets field] ∧
        ∀ headers, headers.values "cookie" = [Utf8.encode (Cookie.kept field)] →
          (visitor headers gateway.key cache).1 = some login.identity) ∧
    ∀ query before response, before.Sound gateway.key →
      (gateway.completeBridge query before).reply = .value response →
      ∃ token resume identity field, Resumes query token resume ∧
        Token.decode token gateway.key = .ok identity ∧
        response.headers.values "set-cookie" = [octets field] ∧
        ∀ headers, headers.values "cookie" = [Utf8.encode (Cookie.kept field)] →
          (visitor headers gateway.key cache).1 = some identity := by
  have back {token : String} {identity : Identity} {headers : Headers}
      (accepted : Token.decode token gateway.key = .ok identity)
      (sent : headers.values "cookie" =
        [Utf8.encode (Cookie.kept (cookie token gateway.secureCookies).field)]) :
      (visitor headers gateway.key cache).1 = some identity := by
    rw [kept_cookie] at sent
    exact visitor_of_spelling sound accepted .set sent
  refine ⟨?_, fun identity => Token.decode_of_encode identity gateway.key, kept_cookie, ?_, ?_⟩
  · intro token identity value headers accepted spelling sent
    exact visitor_of_spelling sound accepted spelling sent
  · intro outside query before response ended
    obtain ⟨login, set⟩ := cookie_of_callback ended
    refine ⟨login, _, set, ?_⟩
    intro headers sent
    exact back (Token.decode_of_encode login.identity gateway.key) sent
  · intro query before response earlier ended
    obtain ⟨token, resume, identity, resumes, accepted, set⟩ :=
      cookie_of_completeBridge earlier ended
    refine ⟨token, resume, identity, _, resumes, accepted, set, ?_⟩
    intro headers sent
    exact back accepted sent

end Gateway

namespace OneRoute
open Gateway Interleaving

/-- A client that escapes all but letters and digits of what it was given, percent signs and
all. -/
def escapedAgain : String :=
  String.ofList (Percent.encodeText (fun octet => !(Char.ofNat octet.toNat).isAlphanum)
    (Cookie.escape token).toList)

theorem cookie_round_trip_of_escaped :
    Cache.Sound gateway.key loggedIn.cache ∧
      Token.decode token gateway.key = .ok alice ∧
      (Session.visitor [("cookie", octets ("sso_session=" ++ escapedAgain))] gateway.key
        loggedIn.cache).1 = some alice ∧
      ∃ response field, (gateway.callback outside login.target.query (.empty 0)).reply =
          .value response ∧
        response.headers.values "set-cookie" = [octets field] ∧
        (Session.visitor [("cookie", Utf8.encode (Cookie.kept field))] gateway.key
          loggedIn.cache).1 = some alice := by
  have sound : Cache.Sound gateway.key loggedIn.cache := reaches_loggedIn.sound.cache
  have accepted : Token.decode token gateway.key = .ok alice := by
    rw [← encode_alice]
    exact Token.decode_of_encode alice gateway.key
  have alone (value : Octets) : Headers.values [("cookie", value)] "cookie" = [value] := by
    simp [Headers.values]
  obtain ⟨spelled, _, _, ofCallback, _⟩ := cookie_round_trip sound
  obtain ⟨_, answered, _⟩ := callback_of_canonical aliceLogin (.inl rfl)
    (canonical_routes _ (List.mem_singleton_self _)) (.empty 0)
  obtain ⟨login, field, set, known⟩ := ofCallback _ _ _ _ answered
  have again : Session.IsSpelling token escapedAgain := .again (by decide)
  refine ⟨sound, accepted, spelled _ _ _ _ accepted again (alone _), _, field, answered, set, ?_⟩
  rw [known _ (alone _), Login.unique login aliceLogin]
  rfl

end OneRoute

end LoginGateway
