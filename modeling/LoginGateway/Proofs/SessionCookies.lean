import LoginGateway.Proofs.CacheTransparency
import LoginGateway.Proofs.Cutting
import LoginGateway.Proofs.FieldValues
import LoginGateway.Proofs.UrlTexts

/-! A cookie that was set is understood when it comes back. Nothing in its name or value
ends either of them, and whoever sends the token of a session again is known by it. -/

namespace LoginGateway

namespace Cookie

/-- What a client keeps of a cookie that is set, and sends back. -/
def kept (field : String) : List Char := field.toList.takeWhile (· ≠ ';')

def attributesOf (field : String) : List String :=
  ((pieces ';' field.toList).drop 1).map fun piece => String.ofList (trimWhile isBlankChar piece)

def carried (headers : Headers) : List (List Char) :=
  ((headers.values "cookie").filterMap Headers.visible?).flatMap (pieces ';')

/-- A request brings a cookie back: what a client kept of it stands among the pieces,
perhaps behind spaces, and in no later one a cookie of its name. -/
def IsCarried (cookie : Cookie) (headers : Headers) : Prop :=
  ∃ before spaces after, carried headers = before ++ (spaces ++ kept cookie.field) :: after ∧
    (∀ char ∈ spaces, char = ' ') ∧ ∀ piece ∈ after, ∀ value, read? piece ≠ some (cookie.name, value)

def isInner (char : Char) : Bool := char ≠ ';' && char ≠ '=' && !isBlankChar char

theorem isInner_of_sign : ∀ char ∈ Percent.signs, isInner char = true :=
  List.all_iff_forall_prop.mp (by decide)

theorem isInner_escape (text : String) : ∀ char ∈ (escape text).toList, isInner char = true := by
  intro char inside
  rw [escape, String.toList_ofList] at inside
  rcases Percent.mem_encodeText inside with sign | ⟨_, ascii, plain⟩
  · exact isInner_of_sign char sign
  · exact of_ascii ascii (by decide) plain

theorem isInner_spec {char : Char} (inner : isInner char = true) :
    char ≠ ';' ∧ char ≠ '=' ∧ isBlankChar char = false := by
  simpa [isInner, and_assoc] using inner

theorem unescape?_escape (text : String) : unescape? (escape text).toList = some text := by
  have sign : isEscaped 37 = true := by decide
  rw [unescape?, escape, String.toList_ofList, Percent.encodeText, Percent.decode_encode sign]
  exact text?_octets text

theorem toList_append_cons {front : String} {first : Char} {others : List Char}
    (starts : front.toList = first :: others) (rest : String) :
    (front ++ rest).toList = first :: (others ++ rest.toList) := by
  rw [String.toList_append, starts, List.cons_append]

theorem attributes_cons (cookie : Cookie) : ∃ rest, cookie.attributes.toList = ';' :: rest := by
  have front : "; HttpOnly; SameSite=Lax".toList = ';' :: " HttpOnly; SameSite=Lax".toList := by
    decide
  exact ⟨_, toList_append_cons (toList_append_cons (toList_append_cons front _) _) _⟩

theorem kept_field (cookie : Cookie) :
    kept cookie.field = (escape cookie.name).toList ++ '=' :: (escape cookie.value).toList := by
  obtain ⟨rest, starts⟩ := attributes_cons cookie
  have whole : cookie.field.toList = ((escape cookie.name).toList ++ '=' ::
      (escape cookie.value).toList) ++ ';' :: rest := by
    rw [← starts]
    simp [field, String.toList_append]
  have plain : ∀ char ∈ (escape cookie.name).toList ++ '=' :: (escape cookie.value).toList,
      char ≠ ';' := by
    intro char inside
    rcases List.mem_append.mp inside with name | later
    · exact (isInner_spec (isInner_escape _ char name)).1
    · rcases List.mem_cons.mp later with rfl | value
      · decide
      · exact (isInner_spec (isInner_escape _ char value)).1
  rw [kept, whole, List.takeWhile_append_of_pos (by simpa using plain),
    List.takeWhile_cons_of_neg (by decide), List.append_nil]

theorem semicolon_not_mem_kept (field : String) : ';' ∉ kept field := by
  intro inside
  have other := List.mem_takeWhile_imp inside
  simp at other

theorem attributesOf_field {cookie : Cookie} {rest : List Char}
    (starts : cookie.attributes.toList = ';' :: rest) : attributesOf cookie.field =
      (pieces ';' rest).map fun piece => String.ofList (trimWhile isBlankChar piece) := by
  have whole : cookie.field.toList = kept cookie.field ++ ';' :: rest := by
    rw [kept_field, ← starts]
    simp [field, String.toList_append]
  rw [attributesOf, whole, pieces_append, pieces_of_not_mem (semicolon_not_mem_kept _)]
  rfl

/-- Every cookie with a name is read from what is kept of it. -/
theorem read?_kept {cookie : Cookie} (named : cookie.name ≠ "") {spaces : List Char}
    (blank : ∀ char ∈ spaces, char = ' ') :
    read? (spaces ++ kept cookie.field) = some (cookie.name, cookie.value) := by
  have absent : '=' ∉ spaces ++ (escape cookie.name).toList := by
    intro inside
    rcases List.mem_append.mp inside with space | name
    · exact absurd (blank '=' space) (by decide)
    · exact (isInner_spec (isInner_escape _ '=' name)).2.1 rfl
  have trimmed (text : String) (spaces : List Char) (blank : ∀ char ∈ spaces, char = ' ') :
      trimWhile isBlankChar (spaces ++ (escape text).toList) = (escape text).toList :=
    trimWhile_append (fun char space => by rw [blank char space]; decide)
      fun char inside => (isInner_spec (isInner_escape text char inside)).2.2
  have filled : (escape cookie.name).toList ≠ [] := by
    intro empty
    have nothing : unescape? [] = some "" := by decide +kernel
    have same := unescape?_escape cookie.name
    rw [empty, nothing] at same
    exact named (Option.some.inj same).symm
  have value := trimmed cookie.value [] nofun
  rw [List.nil_append] at value
  rw [kept_field, ← List.append_assoc, read?, split?_append absent]
  simp only [Option.bind_eq_bind, Option.bind_some, trimmed cookie.name spaces blank, if_neg filled, value,
    unescape?_escape]

theorem jar_eq (headers : Headers) : jar headers = (carried headers).filterMap read? := by
  rw [carried, List.filterMap_flatMap, jar]

theorem find?_of_last {name value : String} {front back : List (String × String)}
    (last : ∀ pair ∈ back, pair.1 ≠ name) :
    find? (front ++ (name, value) :: back) name = some value := by
  have none : back.reverse.find? (·.1 = name) = none := by
    rw [List.find?_eq_none]
    intro pair inside
    rw [decide_eq_true_eq]
    exact last pair (List.mem_reverse.mp inside)
  rw [find?, List.reverse_append, List.reverse_cons, List.append_assoc, List.find?_append, none]
  simp

theorem find?_of_isCarried {cookie : Cookie} {headers : Headers} (named : cookie.name ≠ "")
    (sent : cookie.IsCarried headers) : find? (jar headers) cookie.name = some cookie.value := by
  obtain ⟨before, spaces, after, same, blank, last⟩ := sent
  rw [jar_eq, same, List.filterMap_append, List.filterMap_cons_some (read?_kept named blank)]
  apply find?_of_last
  rintro ⟨_, value⟩ inside rfl
  obtain ⟨piece, among, read⟩ := List.mem_filterMap.mp inside
  exact last piece among value read

end Cookie

theorem Headers.visible?_of_ascii {text : List Char}
    (ascii : ∀ char ∈ text, 0x20 ≤ char.toNat ∧ char.toNat < 0x7F) :
    visible? (Utf8.encode text) = some text := by
  have visible : isVisible (Utf8.encode text) = true := by
    apply isVisible_encode
    intro char inside
    exact .inr (ascii char inside)
  obtain ⟨read, found, same, _⟩ := visible?_of_isVisible visible
  rw [found, Utf8.encode_injective same]

namespace Cookie

theorem visible_escape (text : String) :
    ∀ char ∈ (escape text).toList, 0x20 ≤ char.toNat ∧ char.toNat < 0x7F := by
  intro char inside
  rw [escape, String.toList_ofList] at inside
  rcases Percent.mem_encodeText inside with sign | ⟨_, ascii, plain⟩
  · have signs : ∀ char ∈ Percent.signs, 0x20 ≤ char.toNat ∧ char.toNat < 0x7F :=
      List.all_iff_forall_prop.mp (by decide)
    exact signs char sign
  · have printable := Percent.printable_encodeText (fun octet control => by
      simp [isEscaped, control]) text.toList char inside
    omega

theorem isCarried_behind (cookie : Cookie) {front : List Char}
    (visible : ∀ char ∈ front, 0x20 ≤ char.toNat ∧ char.toNat < 0x7F) :
    cookie.IsCarried [("cookie", Utf8.encode (front ++ ';' :: ' ' :: kept cookie.field))] := by
  have plain : ∀ char ∈ ' ' :: kept cookie.field,
      (0x20 ≤ char.toNat ∧ char.toNat < 0x7F) ∧ char ≠ ';' := by
    intro char inside
    rw [kept_field] at inside
    rcases List.mem_cons.mp inside with rfl | inside
    · decide
    · rcases List.mem_append.mp inside with name | later
      · exact ⟨visible_escape _ char name, (isInner_spec (isInner_escape _ char name)).1⟩
      · rcases List.mem_cons.mp later with rfl | value
        · decide
        · exact ⟨visible_escape _ char value, (isInner_spec (isInner_escape _ char value)).1⟩
  have whole : Headers.visible? (Utf8.encode (front ++ ';' :: ' ' :: kept cookie.field)) =
      some (front ++ ';' :: ' ' :: kept cookie.field) := by
    apply Headers.visible?_of_ascii
    exact List.forall_mem_append.mpr
      ⟨visible, List.forall_mem_cons.mpr ⟨by decide, fun char inside => (plain char inside).1⟩⟩
  have absent : ';' ∉ ' ' :: kept cookie.field := fun inside => (plain ';' inside).2 rfl
  have parts : carried [("cookie", Utf8.encode (front ++ ';' :: ' ' :: kept cookie.field))] =
      pieces ';' front ++ [' ' :: kept cookie.field] := by
    have field (value : Octets) : Headers.values [("cookie", value)] "cookie" = [value] := by
      simp [Headers.values]
    rw [carried, field, List.filterMap_cons_some whole, List.filterMap_nil, List.flatMap_cons,
      List.flatMap_nil, List.append_nil, pieces_append, pieces_of_not_mem absent]
  refine ⟨pieces ';' front, [' '], [], ?_, by simp, by simp⟩
  rw [parts, List.singleton_append]

end Cookie

namespace Token

theorem percent_not_mem (identity : Identity) (key : SigningKey) :
    37 ∉ octets (encode identity key) := by
  intro inside
  have sign : '%' ∈ (encode identity key).toList := Utf8.mem_of_mem_encode (by decide) inside
  rw [toList_encode] at sign
  have written {bytes : Octets} (among : '%' ∈ Base64.encode bytes) : False :=
    absurd (Base64.isWritten_of_mem_encode bytes _ among) (by decide)
  rcases List.mem_append.mp sign with before | after
  · exact written before
  · rcases List.mem_cons.mp after with same | behind
    · exact absurd same (by decide)
    · exact written behind

theorem encode_ne_empty (identity : Identity) (key : SigningKey) : encode identity key ≠ "" := by
  intro empty
  have text := toList_encode identity key
  rw [empty] at text
  exact absurd text.symm (by simp)

end Token

namespace Session

theorem cookie_named (token : String) (secure : Bool) : (cookie token secure).name ≠ "" := by
  simp [cookie, cookieName]

theorem read?_cookie (token : String) (secure : Bool) :
    Cookie.read? (Cookie.kept (cookie token secure).field) = some (cookieName, token) := by
  have spaces : ∀ char ∈ ([] : List Char), char = ' ' := nofun
  have read := Cookie.read?_kept (cookie_named token secure) spaces
  rwa [List.nil_append] at read

/-- A client sends the cookie of a session to every page of the host, for an hour. -/
theorem attributesOf_cookie (token : String) (secure : Bool) :
    Cookie.attributesOf (cookie token secure).field =
      ["HttpOnly", "SameSite=Lax"] ++ (if secure then ["Secure"] else [])
        ++ ["Path=/", "Max-Age=3600"] := by
  have other : (cookie token secure).attributes = (cookie "" secure).attributes := rfl
  have starts : (cookie token secure).attributes.toList =
      ';' :: (cookie "" secure).attributes.toList.drop 1 := by
    rw [other]
    cases secure <;> decide +kernel
  rw [Cookie.attributesOf_field starts]
  cases secure <;> decide +kernel

/-- Whoever brings the cookie of a session back offers its token. -/
theorem token?_of_isCarried {identity : Identity} {key : SigningKey} {secure : Bool}
    {headers : Headers} (sent : (cookie (Token.encode identity key) secure).IsCarried headers) :
    token? headers = some (Token.encode identity key) := by
  have found : Cookie.find? (Cookie.jar headers) cookieName = some (Token.encode identity key) :=
    Cookie.find?_of_isCarried (cookie_named _ secure) sent
  rw [token?, found]
  simp only [Option.bind_eq_bind, Option.bind_some, if_neg (Token.encode_ne_empty identity key),
    Percent.decode_of_not_mem (Token.percent_not_mem identity key), text?_octets]

/-- Whoever brings it back is known by it, from any sound cache. -/
theorem visitor_of_isCarried {identity : Identity} {key : SigningKey} {secure : Bool}
    {headers : Headers} {cache : Cache} (sound : cache.Sound key)
    (sent : (cookie (Token.encode identity key) secure).IsCarried headers) :
    (visitor headers key cache).1 = some identity := by
  rw [visitor, token?_of_isCarried sent]
  exact sound.resolve_iff.mpr (Token.decode_of_encode identity key)

end Session

end LoginGateway
