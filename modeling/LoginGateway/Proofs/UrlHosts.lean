import LoginGateway.Proofs.AddressTexts
import LoginGateway.Proofs.UrlPlaces

/-! What hosts are read as and how they are written. Whatever a host was read from, its
own text holds nothing that would end it. -/

namespace LoginGateway

namespace Host
open Url

inductive IsRead : Host → Prop
  | domain {text name : List Char} (read : Domain.toAscii? text = some name) (filled : name ≠ [])
      (named : Ipv4.isMeant name = false) : IsRead (.domain name)
  | ipv4 {address : Nat} (small : address < 2 ^ 32) : IsRead (.ipv4 address)
  | ipv6 {pieces : List Nat} (address : Ipv6.IsAddress pieces) : IsRead (.ipv6 pieces)

variable {host : Host}

theorem isRead_of_readHost {text : List Char} (read : readHost true text = .ok host) :
    IsRead host := by
  unfold readHost at read
  split at read
  next rest =>
    unfold readIpv6 at read
    split at read
    next =>
      split at read
      next pieces found =>
        cases read
        exact .ipv6 (Ipv6.isAddress_of_parse? found)
      next => cases read
    next => cases read
  next =>
    rw [if_pos rfl] at read
    unfold readDomain at read
    split at read
    next => cases read
    next => cases read
    next name filled found =>
      split at read
      next =>
        split at read
        next address octets =>
          cases read
          exact .ipv4 (Ipv4.lt_of_parse? octets)
        next => cases read
      next named =>
        cases read
        exact .domain found filled (Bool.eq_false_iff.mpr named)

theorem IsRead.text_ne_nil (known : IsRead host) : host.text ≠ [] := by
  cases known with
  | domain _ filled _ => exact filled
  | ipv4 small => exact Ipv4.text_ne_nil _
  | ipv6 address => exact List.cons_ne_nil _ _

end Host

namespace Url

/-- Characters in which hosts and ports are written. -/
def isHostChar (char : Char) : Bool := !Domain.isForbidden char || "[:]".toList.contains char

theorem isHostChar_decimal : ∀ char ∈ decimal, isHostChar char = true :=
  List.all_iff_forall_prop.mp (by decide)

theorem isHostChar_of_mem_repr (number : Nat) :
    ∀ char ∈ (Nat.repr number).toList, isHostChar char = true :=
  fun char inside => isHostChar_decimal char (mem_decimal_of_repr inside).1

theorem isHostChar_portText (url : Url) : ∀ char ∈ url.portText, isHostChar char = true := by
  intro char inside
  unfold portText at inside
  split at inside
  next port _ =>
    rcases List.mem_cons.mp inside with rfl | digits
    · decide
    · exact isHostChar_of_mem_repr port char digits
  next => cases inside

theorem isHostChar_hexadecimal : ∀ char ∈ hexadecimal, isHostChar char = true :=
  List.all_iff_forall_prop.mp (by decide)

theorem isPlaceChar_of_allowed {char : Char} (allowed : Domain.isForbidden char = false) :
    isPlaceChar char = true := by
  simp only [Domain.isForbidden, Bool.or_eq_false_iff, decide_eq_false_iff_not] at allowed
  obtain ⟨⟨visible, _⟩, absent⟩ := allowed
  have different (other : Char) (among : other ∈ "#%/:<>?@[\\]^|".toList) : char ≠ other := by
    rintro rfl
    rw [List.contains_eq_mem, decide_eq_false_iff_not] at absent
    exact absent among
  simp only [isPlaceChar, isEdge, endsAuthority, isSlash, Bool.true_and, Bool.and_eq_true,
    Bool.not_eq_true', Bool.or_eq_false_iff, decide_eq_false_iff_not, decide_eq_true_eq]
  exact ⟨⟨visible, ⟨⟨different '/' (by decide), different '\\' (by decide)⟩,
    different '?' (by decide)⟩, different '#' (by decide)⟩, different '@' (by decide)⟩

theorem isPlaceChar_of_isHostChar {char : Char} (written : isHostChar char = true) :
    isPlaceChar char = true := by
  rcases (Bool.or_eq_true _ _).mp written with allowed | sign
  · exact isPlaceChar_of_allowed ((Bool.not_eq_true' _).mp allowed)
  · rw [List.contains_eq_mem, decide_eq_true_eq] at sign
    have placed : ∀ char ∈ "[:]".toList, isPlaceChar char = true :=
      List.all_iff_forall_prop.mp (by decide)
    exact placed char sign

theorem printable_of_isHostChar {char : Char} (written : isHostChar char = true) :
    0x20 ≤ char.toNat ∧ char.toNat ≠ 0x7F := by
  rcases (Bool.or_eq_true _ _).mp written with allowed | sign
  · have free := (Bool.not_eq_true' _).mp allowed
    simp only [Domain.isForbidden, Bool.or_eq_false_iff, decide_eq_false_iff_not] at free
    omega
  · rw [List.contains_eq_mem, decide_eq_true_eq] at sign
    have printable : ∀ char ∈ "[:]".toList, 0x20 ≤ char.toNat ∧ char.toNat ≠ 0x7F :=
      List.all_iff_forall_prop.mp (by decide)
    exact printable char sign

theorem isHostChar_text {host : Host} (known : host.IsRead) :
    ∀ char ∈ host.text, isHostChar char = true := by
  intro char inside
  cases known with
  | domain found filled named =>
    rw [isHostChar, Domain.not_forbidden_of_toAscii? found char inside]
    rfl
  | ipv4 small => exact isHostChar_decimal char (Ipv4.mem_text inside)
  | ipv6 address =>
    rcases List.mem_cons.mp inside with rfl | inside
    · decide
    · rcases List.mem_append.mp inside with before | last
      · exact isHostChar_hexadecimal char (Ipv6.mem_text before)
      · rw [List.mem_singleton.mp last]
        decide

theorem isHostChar_of_readHost {text : List Char} {host : Host}
    (read : readHost true text = .ok host) : ∀ char ∈ host.text, isHostChar char = true :=
  isHostChar_text (Host.isRead_of_readHost read)

theorem readPath_segments (special : Bool) (text : List Char) :
    ∃ parts, readPath special text = .segments parts := by
  cases text with
  | nil => exact ⟨_, rfl⟩
  | cons first rest => exact ⟨_, rfl⟩

/-- A URL whose host was read behind two slashes. -/
structure Rooted (kind : List Char) (url : Url) : Prop where
  scheme : url.scheme = kind
  host : ∃ host, url.host = some host ∧ ∃ text, readHost (isSpecial kind) text = .ok host
  pathRead : ∃ text, url.path = readPath (isSpecial kind) text
  port : ∃ digits rest, readPort kind digits = .ok (url.port, rest)

theorem Rooted.path {kind : List Char} {url : Url} (rooted : Rooted kind url) :
    ∃ parts, url.path = .segments parts := by
  obtain ⟨text, same⟩ := rooted.pathRead
  rw [same]
  exact readPath_segments _ text

theorem rooted_of_readAuthority {scheme text : List Char} {url : Url}
    (made : readAuthority scheme text = .ok url) : Rooted scheme url := by
  simp only [readAuthority, bind, Except.bind] at made
  split at made
  next => cases made
  next =>
    split at made
    next => cases made
    next =>
      split at made
      next => cases made
      next host read =>
        split at made
        next => cases made
        next =>
          split at made
          next => cases made
          next found numbered =>
            split at made
            next => cases made
            next =>
              cases made
              exact ⟨rfl, ⟨host, rfl, _, read⟩, ⟨_, rfl⟩, _, found.2, numbered⟩

theorem rooted_of_web {scheme rest : List Char} {url : Url} (web : IsWeb scheme)
    (made : parse (scheme ++ ':' :: '/' :: '/' :: rest) = .ok url) : Rooted scheme url := by
  rw [parse_web web] at made
  exact rooted_of_readAuthority made

theorem scheme_of_readFile {scheme text : List Char} {url : Url}
    (made : readFile scheme text = .ok url) : url.scheme = scheme := by
  simp only [readFile, bind, Except.bind] at made
  split at made
  next =>
    split at made
    next =>
      split at made
      next =>
        cases made
        rfl
      next =>
        split at made
        next =>
          cases made
          rfl
        next =>
          split at made
          next => cases made
          next =>
            cases made
            rfl
    next =>
      cases made
      rfl
  next =>
    cases made
    rfl

theorem rooted_of_parse {text : List Char} {url : Url} (made : parse text = .ok url)
    (web : IsWeb url.scheme) : Rooted url.scheme url := by
  obtain ⟨special, notFile, _⟩ := isSpecial_web web
  unfold parse at made
  split at made
  next => cases made
  next scheme rest _ =>
    split at made
    next file =>
      rw [scheme_of_readFile made] at notFile
      exact absurd file notFile
    next =>
      split at made
      next =>
        have rooted := rooted_of_readAuthority made
        rw [rooted.scheme]
        exact rooted
      next unknown =>
        split at made
        next =>
          rw [(rooted_of_readAuthority made).scheme] at special
          exact absurd special unknown
        next =>
          cases made
          exact absurd special unknown

end Url

end LoginGateway
