import LoginGateway.Proofs.BackendAccess

/-! Which fields of a request reach its backend. A visitor may write their names in any
case and name any of them in a `connection` field. The two that tell who the visitor is
are written last, so nothing in the request takes one of them away or adds another. -/

namespace LoginGateway

namespace Headers

/-- Fields as they are kept, from names that were written in any case. -/
def keep? (fields : List (String × Octets)) : Option Headers :=
  fields.mapM fun field => (name? field.1.toList).map (·, field.2)

/-- The values that were written under a name in any case, in order. -/
def valuesOf (fields : List (String × Octets)) (name : String) : List Octets :=
  (fields.filter fun field => name? field.1.toList = some name).map (·.2)

/-- A value names a field if the name stands in it in any case, with no more than blanks
around it, between two commas or between a comma and an end. -/
def Lists (value : Octets) (name : String) : Prop :=
  ∃ before front text back after : List Char,
    value = Utf8.encode (before ++ (front ++ text ++ back) ++ after) ∧
    (before = [] ∨ ∃ others, before = others ++ [',']) ∧
    (after = [] ∨ ∃ others, after = ',' :: others) ∧
    (∀ char ∈ front ++ back, char = ' ' ∨ char = '\t') ∧
    text.map Char.toLower = name.toList

section Names

theorem isNameChar_toLower (char : Char) : isNameChar char.toLower = isNameChar char := by
  by_cases ascii : char.toNat < 0x80
  · exact of_ascii ascii (by decide)
  · rw [toLower_of_high (Nat.le_of_not_lt ascii)]

theorem ascii_of_isNameChar {char : Char} (named : isNameChar char = true) : char.toNat < 0x80 := by
  have symbols : ∀ symbol ∈ "!#$%&'*+-.^_\x60|~".toList, symbol.toNat < 0x80 :=
    List.all_iff_forall_prop.mp (by decide)
  rw [isNameChar, Bool.or_eq_true] at named
  rcases named with alphanumeric | symbol
  · exact ascii_of_isAlphanum alphanumeric
  · exact symbols char (List.contains_iff_mem.mp symbol)

theorem inner_of_isNameChar {char : Char} (named : isNameChar char = true) :
    char ≠ ',' ∧ isBlankChar char = false :=
  of_ascii (ascii_of_isNameChar named) (by decide) named

theorem name?_eq_some_iff {text : List Char} {name : String} : name? text = some name ↔
    text ≠ [] ∧ (∀ char ∈ text, isNameChar char = true) ∧ text.map Char.toLower = name.toList := by
  rw [name?, Option.ite_none_right_eq_some, List.all_eq_true, and_assoc, Option.some.injEq,
    ← String.toList_inj, String.toList_ofList]

/-- Names are read alike in any case. -/
theorem name?_of_lower {text other : List Char}
    (same : text.map Char.toLower = other.map Char.toLower) : name? text = name? other := by
  have letters (text : List Char) : text.all isNameChar = (text.map Char.toLower).all isNameChar := by
    rw [List.all_map]
    congr 1
    funext char
    exact (isNameChar_toLower char).symm
  have filled : text ≠ [] ↔ other ≠ [] := by
    rw [← List.length_pos_iff, ← List.length_pos_iff, ← List.length_map Char.toLower, same,
      List.length_map]
  simp only [name?, letters text, letters other, same, filled]

theorem values_of_keep? {fields : List (String × Octets)} {headers : Headers}
    (kept : keep? fields = some headers) (name : String) :
    headers.values name = valuesOf fields name := by
  induction fields generalizing headers with
  | nil =>
    cases kept
    rfl
  | cons field fields ih =>
    rw [keep?, List.mapM_cons] at kept
    cases read : name? field.1.toList with
    | none =>
      rw [read] at kept
      cases kept
    | some first =>
      rw [read] at kept
      cases later : keep? fields with
      | none =>
        rw [keep?] at later
        rw [later] at kept
        cases kept
      | some rest =>
        have values := ih later
        rw [keep?] at later
        rw [later] at kept
        cases kept
        by_cases same : first = name
        · simp only [Headers.values, valuesOf] at values ⊢
          simp [same, read, values]
        · simp only [Headers.values, valuesOf] at values ⊢
          simp [same, read, values]

end Names

section Connection

variable {headers : Headers} {name : String}

theorem blank_of_visible {char : Char} (visible : IsVisibleChar char)
    (blank : isBlankChar char = true) : char = ' ' ∨ char = '\t' := by
  rcases visible with tab | range
  · exact .inr tab
  · simp only [isBlankChar, Bool.or_eq_true, Bool.and_eq_true, decide_eq_true_eq] at blank
    have space : char.toNat = ' '.toNat := by
      change char.toNat = 32
      omega
    exact .inl (Char.toNat_inj.mp space)

theorem mem_listed_iff (visible : ∀ value ∈ headers.values "connection", isVisible value = true)
    {text : List Char} (token : name? text = some name) :
    name ∈ headers.listed ↔ ∃ value ∈ headers.values "connection", Lists value name := by
  obtain ⟨_, letters, lower⟩ := name?_eq_some_iff.mp token
  rw [listed, List.mem_flatMap]
  constructor
  · rintro ⟨chars, among, listed⟩
    obtain ⟨value, inside, read⟩ := List.mem_filterMap.mp among
    obtain ⟨element, piece, named⟩ := List.mem_filterMap.mp listed
    obtain ⟨same, shown⟩ := encode_of_visible? read
    obtain ⟨before, after, whole, starts, ends⟩ := exists_of_mem_pieces piece
    obtain ⟨front, back, trimmed, blank⟩ := exists_trimWhile isBlankChar element
    refine ⟨value, inside, before, front, _, back, after, ?_, starts, ends, ?_,
      (name?_eq_some_iff.mp named).2.2⟩
    · rw [← same, whole, ← trimmed]
    · intro char around
      apply blank_of_visible _ (blank char around)
      apply shown
      rw [whole, trimmed]
      rcases List.mem_append.mp around with here | here <;> simp [here]
  · rintro ⟨value, inside, before, front, written, back, after, same, starts, ends, blank, case⟩
    obtain ⟨chars, read, octets, _⟩ := visible?_of_isVisible (visible value inside)
    have whole := Utf8.encode_injective (octets.trans same)
    have named : name? written = some name := by
      rw [← token]
      exact name?_of_lower (case.trans lower.symm)
    have inner := (name?_eq_some_iff.mp named).2.1
    have around : ∀ char ∈ front ++ back, isBlankChar char = true := by
      intro char here
      rcases blank char here with rfl | rfl <;> decide
    have absent : ',' ∉ front ++ written ++ back := by
      intro comma
      simp only [List.mem_append, or_assoc] at comma
      rcases comma with before | here | behind
      · exact absurd (around ',' (List.mem_append_left back before)) (by decide)
      · exact (inner_of_isNameChar (inner ',' here)).1 rfl
      · exact absurd (around ',' (List.mem_append_right front behind)) (by decide)
    refine ⟨chars, List.mem_filterMap.mpr ⟨value, inside, read⟩, ?_⟩
    apply List.mem_filterMap.mpr
    refine ⟨front ++ written ++ back, ?_, ?_⟩
    · rw [whole]
      exact mem_pieces_of_between absent starts ends
    · rw [trimWhile_between, named]
      · exact fun char here => around char (List.mem_append_left back here)
      · exact fun char here => (inner_of_isNameChar (inner char here)).2
      · exact fun char here => around char (List.mem_append_right front here)

theorem token_of_listed (inside : name ∈ headers.listed) : ∃ text, name? text = some name := by
  obtain ⟨chars, _, listed⟩ := List.mem_flatMap.mp inside
  obtain ⟨element, _, named⟩ := List.mem_filterMap.mp listed
  exact ⟨_, named⟩

theorem values_endToEnd_dropped (dropped : name ∈ connectionFields ∨ name ∈ headers.listed) :
    headers.endToEnd.values name = [] := by
  rw [values, List.map_eq_nil_iff, List.filter_eq_nil_iff]
  intro field inside same
  have kept := (List.mem_filter.mp inside).2
  rw [decide_eq_true_eq] at same
  rw [← same] at dropped
  simp at kept
  exact dropped.elim kept.1 kept.2

theorem values_endToEnd_kept (other : name ∉ connectionFields) (free : name ∉ headers.listed) :
    headers.endToEnd.values name = headers.values name := by
  rw [values, values, endToEnd, List.filter_filter]
  congr 1
  apply List.filter_congr
  intro field _
  by_cases same : field.1 = name
  · simp [same, other, free]
  · simp [same]

/-- Fields for one connection only, by their name or because they are listed. -/
inductive IsLocal (fields : List (String × Octets)) (name : String) : Prop where
  | connection (inside : name ∈ ["connection", "keep-alive", "proxy-connection", "te", "trailer",
      "transfer-encoding", "upgrade"])
  | listed {value : Octets} (inside : value ∈ valuesOf fields "connection") (lists : Lists value name)

variable {fields : List (String × Octets)}

/-- Among the names that a field can have, those that are for one connection are dropped. -/
theorem isLocal_iff (arrived : keep? fields = some headers)
    (visible : ∀ value ∈ headers.values "connection", isVisible value = true) {text : List Char}
    (token : name? text = some name) :
    IsLocal fields name ↔ name ∈ connectionFields ∨ name ∈ headers.listed := by
  rw [mem_listed_iff visible token, values_of_keep? arrived]
  constructor
  · rintro (inside | ⟨inside, lists⟩)
    · exact .inl inside
    · exact .inr ⟨_, inside, lists⟩
  · rintro (inside | ⟨value, inside, lists⟩)
    · exact .connection inside
    · exact .listed inside lists

theorem values_of_local (arrived : keep? fields = some headers)
    (visible : ∀ value ∈ headers.values "connection", isVisible value = true)
    (inner : IsLocal fields name) : headers.endToEnd.values name = [] := by
  by_cases dropped : name ∈ connectionFields ∨ name ∈ headers.listed
  · exact values_endToEnd_dropped dropped
  · -- A name that is listed and is still not dropped is the name of no field.
    obtain ⟨other, free⟩ := not_or.mp dropped
    rw [values_endToEnd_kept other free, values_of_keep? arrived, valuesOf, List.map_eq_nil_iff,
      List.filter_eq_nil_iff]
    intro field _ token
    rw [decide_eq_true_eq] at token
    exact dropped ((isLocal_iff arrived visible token).mp inner)

theorem values_of_not_local (arrived : keep? fields = some headers)
    (visible : ∀ value ∈ headers.values "connection", isVisible value = true)
    (passes : ¬ IsLocal fields name) : headers.endToEnd.values name = valuesOf fields name := by
  have free : name ∉ headers.listed := by
    intro inside
    obtain ⟨text, token⟩ := token_of_listed inside
    exact passes ((isLocal_iff arrived visible token).mpr (.inr inside))
  rw [values_endToEnd_kept (fun inside => passes (.connection inside)) free, values_of_keep? arrived]

end Connection

end Headers

namespace Relay

/-- Fields of a request that are not for its backend. -/
inductive StaysBehind (fields : List (String × Octets)) (name : String) : Prop where
  | host (same : name = "host")
  | isLocal (inner : Headers.IsLocal fields name)

/-- There is one field of a name, and its value is read as a text. -/
def Tells (sent : Headers) (name text : String) : Prop :=
  ∃ value, sent.values name = [value] ∧ Headers.isVisible value = true ∧
    Form.decode value = text ∧ (value = [] → text = "")

theorem tells_of_values {sent : Headers} {name text : String}
    (once : sent.values name = [escaped text]) : Tells sent name text := by
  refine ⟨escaped text, once, ?_, decode_escaped text, ?_⟩
  · rw [escaped_eq]
    exact isVisible_form text
  · intro empty
    have read := decode_escaped text
    rw [empty] at read
    exact read.symm.trans (Form.decode_octets_encode "")

theorem calls_forward (outside : Outside) (route : Route) (identity : Identity) (request : Request)
    (cache : Cache) : (forward outside route identity request cache).calls =
      match requestUrl (route.targetUrl request.target.pathAndQuery) with
      | .ok url => [.backend ⟨request.method, url, requestHeaders request.headers identity,
          if request.body = [] then none else some request.body⟩]
      | .error _ => [] := by
  rw [Gateway.forward_calls, outgoing]
  cases requestUrl (route.targetUrl request.target.pathAndQuery) <;> rfl

variable {fields : List (String × Octets)} {headers : Headers} {name : String}

theorem values_requestHeaders (identity : Identity) (notEmail : name ≠ emailField)
    (notName : name ≠ nameField) (notHost : name ≠ "host") :
    (requestHeaders headers identity).values name = headers.endToEnd.values name := by
  rw [requestHeaders, assertIdentity, Headers.values_set_other _ notName,
    Headers.values_set_other _ notEmail, Headers.values_without_other _ notHost]

theorem values_host (identity : Identity) : (requestHeaders headers identity).values "host" = [] := by
  rw [requestHeaders, assertIdentity, Headers.values_set_other _ (by decide),
    Headers.values_set_other _ (by decide), Headers.values_without_same]

theorem staysBehind_iff : StaysBehind fields name ↔ name = "host" ∨ Headers.IsLocal fields name := by
  constructor
  · rintro (same | inner)
    · exact .inl same
    · exact .inr inner
  · rintro (same | inner)
    · exact .host same
    · exact .isLocal inner

theorem values_of_staysBehind (arrived : Headers.keep? fields = some headers)
    (visible : ∀ value ∈ headers.values "connection", Headers.isVisible value = true)
    (identity : Identity) (notEmail : name ≠ emailField) (notName : name ≠ nameField)
    (behind : StaysBehind fields name) : (requestHeaders headers identity).values name = [] := by
  by_cases host : name = "host"
  · rw [host]
    exact values_host identity
  · rw [values_requestHeaders identity notEmail notName host]
    exact Headers.values_of_local arrived visible ((staysBehind_iff.mp behind).resolve_left host)

theorem values_of_not_staysBehind (arrived : Headers.keep? fields = some headers)
    (visible : ∀ value ∈ headers.values "connection", Headers.isVisible value = true)
    (identity : Identity) (notEmail : name ≠ emailField) (notName : name ≠ nameField)
    (passes : ¬ StaysBehind fields name) :
    (requestHeaders headers identity).values name = Headers.valuesOf fields name := by
  obtain ⟨host, foreign⟩ := not_or.mp (mt staysBehind_iff.mpr passes)
  rw [values_requestHeaders identity notEmail notName host,
    Headers.values_of_not_local arrived visible foreign]

/-- Whatever fields a visitor writes, the request that goes on has one field for the
address and one for the name of the visitor, which are read as these. Of all others none
goes on that is for the gateway, belongs to the connection or is named by a `connection`
field, and every other one does with the values that were written, in their order. -/
theorem relayed_fields {request : Request} (arrived : Headers.keep? fields = some request.headers)
    (visible : ∀ value ∈ Headers.valuesOf fields "connection", Headers.isVisible value = true)
    (outside : Outside) (route : Route) (identity : Identity) (cache : Cache) :
    let sent := requestHeaders request.headers identity
    (forward outside route identity request cache).calls =
      (match requestUrl (route.targetUrl request.target.pathAndQuery) with
        | .ok url => [.backend ⟨request.method, url, sent,
            if request.body = [] then none else some request.body⟩]
        | .error _ => []) ∧
    Tells sent emailField identity.email ∧ Tells sent nameField identity.name ∧
    ∀ name, name ≠ emailField → name ≠ nameField →
      (StaysBehind fields name → sent.values name = []) ∧
      (¬ StaysBehind fields name → sent.values name = Headers.valuesOf fields name) := by
  intro sent
  rw [← Headers.values_of_keep? arrived] at visible
  refine ⟨?_, ?_, ?_, ?_⟩
  · rw [calls_forward]
  · apply tells_of_values
    exact email_assertIdentity _ identity
  · apply tells_of_values
    exact name_assertIdentity _ identity
  · intro name notEmail notName
    exact ⟨values_of_staysBehind arrived visible identity notEmail notName,
      values_of_not_staysBehind arrived visible identity notEmail notName⟩

end Relay

namespace OneRoute
open Relay

def spoofedFields : List (String × Octets) :=
  [("Host", octets "app.org.com"), ("X-SSO-Gateway-Email", octets "mallory@org.com"),
    ("Accept", octets "text/html"), ("x-sso-gateway-email", octets "bob@org.com"),
    ("Connection", octets "close, X-Sso-Gateway-Name ,\tCookie"), ("COOKIE", octets "a=1"),
    ("connection", octets "x-sso-gateway-email"), ("cookie", octets "b=2"),
    ("TE", octets "trailers"), ("accept", octets "*/*")]

def spoofed : Request :=
  { visit with headers := (Headers.keep? spoofedFields).getD [] }

def zoe : Identity := ⟨"zoë@org.com", "Zoë\r\nX-Evil: 1", ""⟩

theorem arrived_spoofed : Headers.keep? spoofedFields = some spoofed.headers := by
  decide +kernel

theorem visible_spoofed : ∀ value ∈ Headers.valuesOf spoofedFields "connection",
    Headers.isVisible value = true := by
  decide +kernel

theorem cookie_stays : StaysBehind spoofedFields "cookie" := by
  have written : ("Connection", octets "close, X-Sso-Gateway-Name ,\tCookie") ∈ spoofedFields := by
    simp [spoofedFields]
  have inside : octets "close, X-Sso-Gateway-Name ,\tCookie" ∈
      Headers.valuesOf spoofedFields "connection" := by
    rw [Headers.valuesOf, List.mem_map]
    exact ⟨_, List.mem_filter.mpr ⟨written, by decide⟩, rfl⟩
  refine .isLocal (.listed inside ⟨"close, X-Sso-Gateway-Name ,".toList, ['\t'], "Cookie".toList, [],
    [], ?_⟩)
  refine ⟨congrArg Utf8.encode ?_, .inr ⟨"close, X-Sso-Gateway-Name ".toList, ?_⟩, .inl rfl, ?_, ?_⟩
  · decide +kernel
  · decide +kernel
  · intro char inside
    exact .inr (List.mem_singleton.mp inside)
  · decide

theorem accept_passes : ¬ StaysBehind spoofedFields "accept" := by
  have token : Headers.name? "accept".toList = some "accept" := by decide
  have visible := visible_spoofed
  rw [← Headers.values_of_keep? arrived_spoofed] at visible
  rw [staysBehind_iff, Headers.isLocal_iff arrived_spoofed visible token]
  decide +kernel

theorem relayed_fields_of_spoofed :
    Headers.keep? spoofedFields = some spoofed.headers ∧
      (∀ value ∈ Headers.valuesOf spoofedFields "connection", Headers.isVisible value = true) ∧
      (forward outside ⟨"app.org.com", backend⟩ zoe spoofed (.empty 0)).calls =
        [.backend { sent with headers := requestHeaders spoofed.headers zoe }] ∧
      Tells (requestHeaders spoofed.headers zoe) emailField "zoë@org.com" ∧
      Tells (requestHeaders spoofed.headers zoe) nameField "Zoë\r\nX-Evil: 1" ∧
      (requestHeaders spoofed.headers zoe).values "cookie" = [] ∧
      (requestHeaders spoofed.headers zoe).values "accept" = [octets "text/html", octets "*/*"] := by
  obtain ⟨calls, email, name, others⟩ :=
    relayed_fields arrived_spoofed visible_spoofed outside ⟨"app.org.com", backend⟩ zoe (.empty 0)
  have sent := url_visit
  have target : spoofed.target = visit.target := rfl
  rw [target, sent] at calls
  have cookie := (others "cookie" (by decide) (by decide)).1 cookie_stays
  have accept := (others "accept" (by decide) (by decide)).2 accept_passes
  exact ⟨arrived_spoofed, visible_spoofed, calls, email, name, cookie,
    accept.trans (by decide +kernel)⟩

end OneRoute

end LoginGateway
