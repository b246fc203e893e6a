import LoginGateway.Proofs.CookieRoundTrip

/-! Cookies beside the session. What else is in the cookie lines of a request does not matter
to its session, unless a later cookie is read under the same name, or the line of the session
holds an octet that keeps the whole line from being read. -/

namespace LoginGateway

namespace Headers

theorem character_injective : Function.Injective fun octet : UInt8 => Char.ofNat octet.toNat := by
  intro first second same
  have code (octet : UInt8) : (Char.ofNat octet.toNat).toNat = octet.toNat := by
    have range := octet.toNat_lt
    have valid : octet.toNat.isValidChar := .inl (by omega)
    rw [Char.ofNat, dif_pos valid]
    rfl
  apply UInt8.toNat_inj.mp
  rw [← code first, ← code second]
  exact congrArg Char.toNat same

theorem pieces_of_visible? {line : Octets} {text : List Char} (read : visible? line = some text) :
    (pieces ';' text).map some = (pieces 59 line).map visible? := by
  obtain ⟨visible, rfl⟩ : isVisible line = true ∧
      line.map (fun octet => Char.ofNat octet.toNat) = text := by
    simpa [visible?] using read
  have cut := pieces_map character_injective 59 line
  have sign : Char.ofNat (59 : UInt8).toNat = ';' := by decide
  rw [sign] at cut
  rw [cut, List.map_map]
  apply List.map_congr_left
  intro piece among
  have inside : isVisible piece = true := by
    rw [isVisible, List.all_eq_true] at visible ⊢
    intro octet within
    exact visible octet ((mem_pieces among).2 octet within)
  rw [Function.comp_apply, visible?, if_pos inside]

end Headers

namespace Cookie

variable {headers : Headers} {line own : Octets} {name value : String}

def ofOctets? (pair : Octets) : Option (String × String) := (Headers.visible? pair).bind read?

/-- The pairs that are looked at: those of all lines that are visible text. -/
def pairs (headers : Headers) : List Octets :=
  ((headers.values "cookie").filter Headers.isVisible).flatMap (pieces 59)

/-- Of all pairs in the cookie lines of a request, with whatever octets, one in this line is
the only one that is read under its name. -/
def IsOnly (headers : Headers) (line own : Octets) (name value : String) : Prop :=
  ofOctets? own = some (name, value) ∧ ∃ before after front back,
    headers.values "cookie" = before ++ line :: after ∧ pieces 59 line = front ++ own :: back ∧
    ∀ other ∈ front ++ back ++ (before ++ after).flatMap (pieces 59), ∀ value,
      ofOctets? other ≠ some (name, value)

theorem jar_of_pairs (headers : Headers) : jar headers = (pairs headers).filterMap ofOctets? := by
  rw [jar, pairs]
  induction headers.values "cookie" with
  | nil => rfl
  | cons line lines ih =>
    cases read : Headers.visible? line with
    | none =>
      have hidden : Headers.isVisible line ≠ true := by
        intro visible
        rw [Headers.visible?, if_pos visible] at read
        cases read
      rw [List.filterMap_cons_none read, List.filter_cons_of_neg hidden]
      exact ih
    | some text =>
      have visible : Headers.isVisible line = true := by
        apply Decidable.byContradiction
        intro hidden
        rw [Headers.visible?, if_neg hidden] at read
        cases read
      have parts : (pieces ';' text).filterMap read? = (pieces 59 line).filterMap ofOctets? := by
        calc (pieces ';' text).filterMap read?
            = ((pieces ';' text).map some).filterMap fun piece => piece.bind read? := by
              rw [List.filterMap_map]
              rfl
          _ = (pieces 59 line).filterMap ofOctets? := by
              rw [Headers.pieces_of_visible? read, List.filterMap_map]
              rfl
      rw [List.filterMap_cons_some read, List.filter_cons_of_pos visible, List.flatMap_cons,
        List.flatMap_cons, List.filterMap_append, parts, ih]

theorem find?_of_absent {found : List (String × String)} (absent : ∀ pair ∈ found, pair.1 ≠ name) :
    find? found name = none := by
  rw [find?, Option.map_eq_none_iff, List.find?_eq_none]
  intro pair inside
  rw [decide_eq_true_eq]
  exact absent pair (List.mem_reverse.mp inside)

theorem name_of_ofOctets? {sent : List Octets}
    (other : ∀ pair ∈ sent, ∀ value, ofOctets? pair ≠ some (name, value)) :
    ∀ pair ∈ sent.filterMap ofOctets?, pair.1 ≠ name := by
  rintro ⟨_, value⟩ inside rfl
  obtain ⟨piece, among, read⟩ := List.mem_filterMap.mp inside
  exact other piece among value read

theorem find?_of_pairs {before after : List Octets} (sent : pairs headers = before ++ own :: after)
    (read : ofOctets? own = some (name, value))
    (last : ∀ other ∈ after, ∀ value, ofOctets? other ≠ some (name, value)) :
    find? (jar headers) name = some value := by
  rw [jar_of_pairs, sent, List.filterMap_append, List.filterMap_cons_some read]
  exact find?_of_last (name_of_ofOctets? last)

theorem find?_of_no_pair
    (absent : ∀ pair ∈ pairs headers, ∀ value, ofOctets? pair ≠ some (name, value)) :
    find? (jar headers) name = none := by
  rw [jar_of_pairs]
  exact find?_of_absent (name_of_ofOctets? absent)

theorem visible_of_ofOctets? {pair : String × String} (read : ofOctets? own = some pair) :
    Headers.isVisible own = true := by
  apply Decidable.byContradiction
  intro hidden
  rw [ofOctets?, Headers.visible?, if_neg hidden] at read
  cases read

theorem pairs_alone (inner : 59 ∉ own) (visible : Headers.isVisible own = true) :
    pairs [("cookie", own)] = [own] := by
  have sent : Headers.values [("cookie", own)] "cookie" = [own] := by
    simp [Headers.values]
  rw [pairs, sent, List.filter_cons_of_pos visible, List.filter_nil, List.flatMap_cons,
    List.flatMap_nil, List.append_nil, pieces_of_not_mem inner]

theorem mem_of_mem_visible {lines : List Octets} {pair : Octets}
    (inside : pair ∈ (lines.filter Headers.isVisible).flatMap (pieces 59)) :
    pair ∈ lines.flatMap (pieces 59) := by
  obtain ⟨line, among, within⟩ := List.mem_flatMap.mp inside
  exact List.mem_flatMap.mpr ⟨line, (List.mem_filter.mp among).1, within⟩

theorem pairs_of_visible {before after : List Octets} {front back : List Octets}
    (sent : headers.values "cookie" = before ++ line :: after)
    (cut : pieces 59 line = front ++ own :: back) (visible : Headers.isVisible line = true) :
    ∃ earlier later, pairs headers = earlier ++ own :: (back ++ later) ∧
      ∀ other ∈ later, other ∈ after.flatMap (pieces 59) := by
  refine ⟨(before.filter Headers.isVisible).flatMap (pieces 59) ++ front,
    (after.filter Headers.isVisible).flatMap (pieces 59), ?_, fun other => mem_of_mem_visible⟩
  rw [pairs, sent, List.filter_append, List.filter_cons_of_pos visible, List.flatMap_append,
    List.flatMap_cons, cut]
  simp only [List.append_assoc, List.cons_append]

theorem pairs_of_hidden {before after : List Octets}
    (sent : headers.values "cookie" = before ++ line :: after)
    (hidden : Headers.isVisible line = false) :
    ∀ other ∈ pairs headers, other ∈ (before ++ after).flatMap (pieces 59) := by
  intro other inside
  apply mem_of_mem_visible
  rwa [pairs, sent, List.filter_append, List.filter_cons_of_neg (by simp [hidden]),
    ← List.filter_append] at inside

end Cookie

namespace Session

variable {headers : Headers} {line own : Octets} {value : String}

theorem visitor_of_find? {others : Headers}
    (same : Cookie.find? (Cookie.jar headers) cookieName = Cookie.find? (Cookie.jar others) cookieName)
    (key : SigningKey) (cache : Cache) : visitor headers key cache = visitor others key cache := by
  rw [visitor, visitor, token?, token?, same]

/-- The last pair that is read as the session decides who a request is from. -/
theorem visitor_of_last {before after : List Octets}
    (sent : Cookie.pairs headers = before ++ own :: after)
    (inner : 59 ∉ own) (read : Cookie.ofOctets? own = some (cookieName, value))
    (last : ∀ other ∈ after, ∀ value, Cookie.ofOctets? other ≠ some (cookieName, value))
    (key : SigningKey) (cache : Cache) :
    visitor headers key cache = visitor [("cookie", own)] key cache := by
  have alone : Cookie.pairs [("cookie", own)] = [] ++ own :: [] :=
    Cookie.pairs_alone inner (Cookie.visible_of_ofOctets? read)
  apply visitor_of_find?
  rw [Cookie.find?_of_pairs sent read last, Cookie.find?_of_pairs alone read nofun]

theorem visitor_of_no_pair
    (absent : ∀ pair ∈ Cookie.pairs headers, ∀ value, Cookie.ofOctets? pair ≠ some (cookieName, value))
    (key : SigningKey) (cache : Cache) : visitor headers key cache = (none, cache) := by
  rw [visitor, token?, Cookie.find?_of_no_pair absent]
  rfl

/-- Other cookies do not matter to the only pair that is read as a session, whatever octets
they have and wherever they are sent, as long as the line of the session is visible text. An
octet of another cookie in this line that is not hides the session with the line. -/
theorem visitor_beside_others (only : Cookie.IsOnly headers line own cookieName value)
    (key : SigningKey) (cache : Cache) :
    (Headers.isVisible line = true →
      visitor headers key cache = visitor [("cookie", own)] key cache) ∧
    (Headers.isVisible line = false → visitor headers key cache = (none, cache)) := by
  obtain ⟨read, before, after, front, back, sent, cut, others⟩ := only
  have among : own ∈ pieces 59 line := by
    rw [cut]
    exact List.mem_append_right front List.mem_cons_self
  have elsewhere {other : Octets} (inside : other ∈ (before ++ after).flatMap (pieces 59))
      (value : String) :
      Cookie.ofOctets? other ≠ some (cookieName, value) :=
    others other (List.mem_append_right _ inside) value
  constructor
  · intro visible
    obtain ⟨earlier, later, all, behind⟩ := Cookie.pairs_of_visible sent cut visible
    apply visitor_of_last all (mem_pieces among).1 read
    intro other inside value
    rcases List.mem_append.mp inside with near | far
    · exact others other (List.mem_append_left _ (List.mem_append_right front near)) value
    · apply elsewhere
      rw [List.flatMap_append]
      exact List.mem_append_right _ (behind other far)
  · intro hidden
    apply visitor_of_no_pair
    intro other inside value
    exact elsewhere (Cookie.pairs_of_hidden sent hidden other inside) value

end Session

namespace OneRoute

def alone : Octets := octets ("sso_session=" ++ token)

def sessionPair : Octets := 32 :: alone

theorem read_sessionPair :
    Cookie.ofOctets? sessionPair = some (Session.cookieName, token) ∧ 59 ∉ sessionPair := by
  decide +kernel

theorem inner_alone : 59 ∉ alone := fun inside =>
  read_sessionPair.2 (List.mem_cons_of_mem 32 inside)

theorem visible_sessionPair : Headers.isVisible sessionPair = true :=
  Cookie.visible_of_ofOctets? read_sessionPair.1

theorem decode_token : Token.decode token gateway.key = .ok alice := by
  rw [← encode_alice]
  exact Token.decode_of_encode alice gateway.key

theorem visitor_of_token? {headers : Headers} (offered : Session.token? headers = some token)
    {cache : Cache} (sound : cache.Sound gateway.key) :
    (Session.visitor headers gateway.key cache).1 = some alice := by
  rw [Session.visitor, offered]
  exact sound.resolve_iff.mpr decode_token

theorem token?_sessionPair : Session.token? [("cookie", sessionPair)] = some token := by
  obtain ⟨read, inner⟩ := read_sessionPair
  have sent : Cookie.pairs [("cookie", sessionPair)] = [] ++ sessionPair :: [] :=
    Cookie.pairs_alone inner visible_sessionPair
  have filled : token ≠ "" := by decide
  have plain : '%' ∉ token.toList := fun inside =>
    (Token.isSendable_of_decode decode_token '%' inside).2 rfl
  rw [Session.token?,
    Cookie.find?_of_pairs sent read fun _ inside => absurd inside List.not_mem_nil]
  simp only [Option.bind_eq_bind, Option.bind_some, if_neg filled]
  exact Session.unescape?_of_plain plain

def crowdedLine : Octets := octets "theme=dark" ++ 59 :: (sessionPair ++ 59 :: octets " lang")

def crowded : Headers :=
  [("cookie", octets "a=\x22b\x22"), ("cookie", crowdedLine), ("cookie", [0x6C, 0x3D, 0x80, 0xFF])]

theorem isOnly_crowded : Cookie.IsOnly crowded crowdedLine sessionPair Session.cookieName token := by
  have sent : crowded.values "cookie" =
      [octets "a=\x22b\x22"] ++ crowdedLine :: [[0x6C, 0x3D, 0x80, 0xFF]] := by
    simp [crowded, Headers.values]
  have first : pieces 59 (octets "theme=dark") = [octets "theme=dark"] := by decide
  have last : pieces 59 (octets " lang") = [octets " lang"] := by decide
  have cut : pieces 59 crowdedLine =
      [octets "theme=dark"] ++ sessionPair :: [octets " lang"] := by
    rw [crowdedLine, pieces_append, pieces_append, pieces_of_not_mem read_sessionPair.2, first, last]
    rfl
  have named : ∀ other ∈ [octets "theme=dark"] ++ [octets " lang"] ++
      ([octets "a=\x22b\x22"] ++ [[0x6C, 0x3D, 0x80, 0xFF]]).flatMap (pieces 59),
      (Cookie.ofOctets? other).map (·.1) ≠ some Session.cookieName :=
    List.all_iff_forall_prop.mp (by decide +kernel)
  refine ⟨read_sessionPair.1, _, _, _, _, sent, cut, ?_⟩
  intro other inside value read
  apply named other inside
  rw [read]
  rfl

theorem visitor_beside_others_of_crowded :
    Cookie.IsOnly crowded crowdedLine sessionPair Session.cookieName token ∧
      Headers.isVisible crowdedLine = true ∧
      (Session.visitor crowded gateway.key (.empty 50)).1 = some alice := by
  have visible : Headers.isVisible crowdedLine = true := by
    have front : Headers.isVisible (octets "theme=dark" ++ [59]) = true := by decide
    have back : Headers.isVisible (59 :: octets " lang") = true := by decide
    rw [crowdedLine, List.append_cons, Headers.isVisible_append, front,
      Headers.isVisible_append, visible_sessionPair, back]
    rfl
  refine ⟨isOnly_crowded, visible, ?_⟩
  rw [(Session.visitor_beside_others isOnly_crowded gateway.key (.empty 50)).1 visible]
  exact visitor_of_token? token?_sessionPair (Cache.sound_empty _ _)

def accented : Octets := alone ++ 59 :: octets " lang=é"

def disguised : Octets := alone ++ 59 :: octets " sso%5Fsession=x"

theorem hidden_by_others :
    (Session.visitor [("cookie", alone)] gateway.key (.empty 50)).1 = some alice ∧
      pieces 59 accented = [alone, octets " lang=é"] ∧ Headers.isValue accented = true ∧
      Session.visitor [("cookie", accented)] gateway.key (.empty 50) = (none, .empty 50) ∧
      pieces 59 disguised = [alone, octets " sso%5Fsession=x"] ∧
      Headers.isValue disguised = true ∧
      Session.visitor [("cookie", disguised)] gateway.key (.empty 50) = (none, .empty 50) := by
  have sent (value : Octets) : Headers.values [("cookie", value)] "cookie" = [value] := by
    simp [Headers.values]
  have visible : Headers.isVisible alone = true := by
    have session := visible_sessionPair
    rw [sessionPair, ← List.singleton_append, Headers.isVisible_append, Bool.and_eq_true] at session
    exact session.2
  have cut (other : Octets) (inner : 59 ∉ other) :
      pieces 59 (alone ++ 59 :: other) = [alone, other] := by
    rw [pieces_append, pieces_of_not_mem inner_alone, pieces_of_not_mem inner]
    rfl
  have admitted (other : Octets) (valid : Headers.isValue (59 :: other) = true) :
      Headers.isValue (alone ++ 59 :: other) = true := by
    rw [Headers.isValue_append, Headers.isValue_of_isVisible visible, valid]
    rfl
  refine ⟨visitor_of_token? (Session.token?_of_spelling decode_token .plain (sent _))
    (Cache.sound_empty _ _), cut _ (by decide), admitted _ (by decide), ?_, cut _ (by decide),
    admitted _ (by decide), ?_⟩
  · have hidden : Headers.isVisible accented = false := by
      have other : Headers.isVisible (59 :: octets " lang=é") = false := by decide
      rw [accented, Headers.isVisible_append, other, Bool.and_false]
    apply Session.visitor_of_no_pair
    rw [Cookie.pairs, sent, List.filter_cons_of_neg (by simp [hidden])]
    exact fun _ inside => absurd inside List.not_mem_nil
  · have shown : Headers.isVisible disguised = true := by
      have other : Headers.isVisible (59 :: octets " sso%5Fsession=x") = true := by decide
      rw [disguised, Headers.isVisible_append, visible, other]
      rfl
    have pairs : Cookie.pairs [("cookie", disguised)] = [alone] ++ octets " sso%5Fsession=x" :: [] := by
      rw [Cookie.pairs, sent, List.filter_cons_of_pos shown, List.filter_nil, List.flatMap_cons,
        List.flatMap_nil, List.append_nil]
      exact cut _ (by decide)
    have read : Cookie.ofOctets? (octets " sso%5Fsession=x") = some (Session.cookieName, "x") := by
      decide +kernel
    rw [Session.visitor_of_last pairs (by decide) read
      fun _ inside => absurd inside List.not_mem_nil]
    decide +kernel

end OneRoute

end LoginGateway
